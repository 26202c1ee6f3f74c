import TaskTracking.Proofs.Retries
import TaskTracking.Proofs.Traffic

/-! # Reconnection of a push channel

  A connect cycle makes its first attempt at once, and every other one a fixed time
  after the last one failed or its connection was lost. Whether a subscription is
  active it looks at before the wait, and not again after it: a subscription that is
  dropped during the wait leaves an attempt behind. `abides_iff` says that this is
  all that can happen without a subscription.
-/

namespace TaskTracking.Push

/-! ### Stages and milestones of a cycle -/

/-- How far a connect cycle has come. -/
inductive Stage where
  | absent
  | starting
  /-- An attempt is under way or a connection open. -/
  | trying
  | waiting (wake : Nat)
deriving DecidableEq

namespace Stage

def isStarting : Stage → Bool
  | .starting => true
  | _ => false

def isWaiting : Stage → Bool
  | .waiting _ => true
  | _ => false

theorem isWaiting_iff {stage : Stage} : stage.isWaiting = true ↔ ∃ wake, stage = .waiting wake := by
  cases stage <;> simp [isWaiting]

/-- Whether there is something yet to fail or to be lost. -/
def isUnderWay : Stage → Bool
  | .starting | .trying => true
  | _ => false

end Stage

def Channel.stage (c : Channel) : Stage :=
  match c.cycle with
  | .absent => .absent
  | .starting => .starting
  | .connecting | .connected _ => .trying
  | .waiting wake => .waiting wake

/-- What a channel has of its settings: the delay and the limit. -/
def Channel.settings (c : Channel) : Nat × Nat := (c.delay, c.maxRetry)

namespace Channel

theorem settings_onLink (c : Channel) (f : Link → Link) : (c.onLink f).settings = c.settings := by
  unfold onLink
  split <;> rfl

theorem settings_fall (c : Channel) (now : Nat) : (c.fall now).settings = c.settings := by
  unfold fall
  dsimp only
  split <;> rfl

/-- The wait is over when its time has come. -/
theorem ready_of_waiting {c : Channel} {wake now : Nat} (h : c.stage = .waiting wake)
    (hdue : wake ≤ now) : c.ready now = true := by
  cases hcycle : c.cycle with
  | waiting wake' =>
    rw [stage, hcycle] at h
    obtain rfl := Stage.waiting.inj h
    simp [ready, hcycle, hdue]
  | _ =>
    rw [stage, hcycle] at h
    cases h

end Channel

/-- What a connect cycle comes by. -/
inductive Milestone where
  | begun
  | tried
  /-- An attempt has failed or a connection was lost, which may end the cycle. -/
  | fallen (ends : Bool)
  | stopped
deriving DecidableEq

def Milestone.isFallen : Milestone → Bool
  | .fallen _ => true
  | _ => false

namespace Course

namespace Record

def milestone? (r : Record) : Option Milestone :=
  if r.begins then some .begun
  else if r.attempts ≠ 0 then some .tried
  else if r.fails || r.loses then some (.fallen r.ends)
  else if r.ends then some .stopped
  else none

/-- A task was subscribed to. -/
def subscribes (r : Record) : Bool :=
  match r.event with
  | .subscribe _ => true
  | _ => false

/-- The subscription was dropped. -/
def drops (r : Record) : Bool :=
  match r.event with
  | .unsubscribe => true
  | _ => false

/-- How long an event took. -/
def duration (r : Record) : Nat :=
  match r.event with
  | .elapsed duration => duration
  | _ => 0

end Record

/-- The time that has passed. -/
def elapsed (history : List Record) : Nat := (history.map Record.duration).sum

/-- The milestones of all cycles. -/
def milestones (history : List Record) : List Milestone := history.filterMap Record.milestone?

/-- What has happened since the last milestone. -/
def since (history : List Record) : List Record := history.rtakeWhile (·.milestone?.isNone)

/-- Time passes only as long as the cycle has nothing to do. -/
def punctual (now : Nat) : List Record → Bool
  | [] => true
  | r :: rest =>
    (r.duration == 0 || !r.before.ready (now + r.duration - 1)) && punctual (now + r.duration) rest

def Punctual (s : Course) : Prop := punctual 0 s.history

/-! ### The law of reconnection -/

/-- The subscription was dropped during the wait that still goes on, and not renewed. -/
def Forsaken (history : List Record) : Prop :=
  ∃ l u m, history = l ++ u :: m ∧ u.drops ∧ u.before.stage.isWaiting ∧
    ∀ r ∈ m, r.subscribes = false ∧ r.milestone? = none

/-- An attempt was made after such a wait. -/
def Deserted (history : List Record) : Prop :=
  ∃ l r m, history = l ++ r :: m ∧ .attempt ∈ r.acts ∧ Forsaken l

/-- No reconnection without a subscription. -/
structure Abides (p : PushSettings) (due : Nat → Prop) (history : List Record) : Prop where
  /-- An attempt is the first one of its cycle, or comes in due time after the cycle's last
      one failed or its connection was lost, while there are retries left and a
      subscription is active. -/
  attempted : ∀ l r m, history = l ++ r :: m → .attempt ∈ r.acts →
    (milestones l).getLast? = some .begun ∨
      (milestones l).getLast? = some (.fallen false) ∧ due (elapsed (since l)) ∧
        r.before.retryCount < p.maxRetry ∧ r.before.active.isSome
  /-- A cycle without a subscription makes no further attempt, and no further retry is used up
      but by what is under way. -/
  dropped : ∀ l u m m', history = l ++ u :: (m ++ m') → u.drops →
    (∀ r ∈ m, r.subscribes = false ∧ r.begins = false) →
    (milestones m).count .tried ≤ u.after.stage.isStarting.toNat ∧
      (milestones m).countP Milestone.isFallen ≤ u.after.stage.isUnderWay.toNat

/-! ### One event -/

/-- What an event does to the connect cycle. -/
inductive Pursues (s : Course) (r : Record) : Prop
  | begins (hmark : r.milestone? = some .begun) (hacts : .attempt ∉ r.acts)
      (hbegins : r.begins = true) (hstage : r.after.stage = .starting)
  | tries (hmark : r.milestone? = some .tried) (hacts : .attempt ∈ r.acts)
      (hbefore : r.before.stage = .starting ∨ ∃ wake ≤ s.now, r.before.stage = .waiting wake)
      (hstage : r.after.stage = .trying)
  | falls (hmark : r.milestone? = some (.fallen r.ends)) (hacts : .attempt ∉ r.acts)
      (hduration : r.duration = 0) (hbefore : r.before.stage = .trying)
      (hafter : r.after = r.before.fall s.now)
  | stops (hmark : r.milestone? = some .stopped) (hacts : .attempt ∉ r.acts)
      (hstage : r.after.stage = .absent)
  | goesOn (hmark : r.milestone? = none) (hacts : .attempt ∉ r.acts)
      (hstage : r.after.stage = r.before.stage)
      (hcount : r.before.stage = .trying ∨ r.after.retryCount = r.before.retryCount)
      (hactive : r.after.active = none →
        r.drops ∨ r.before.active = none ∧ r.subscribes = false)

theorem stage_onLink (c : Channel) (f : Link → Link) : (c.onLink f).stage = c.stage := by
  cases hcycle : c.cycle <;> simp [Channel.onLink, Channel.stage, hcycle]

/-- An event that leaves the phase as it is, and neither starts a cycle nor ends or begins an
    attempt, is no milestone. -/
theorem milestone?_of_same {r : Record} (hsummary : r.after.summary = r.before.summary)
    (hbegins : r.begins = false) (hattempts : r.attempts = 0) (hfails : r.fails = false) :
    r.milestone? = none := by
  obtain ⟨hphase, hrunning, -, -, -⟩ := Summary.mk.inj hsummary
  simp [Record.milestone?, hbegins, hattempts, hfails, Record.loses, Record.closes, Record.ends,
    Channel.isOpen_eq, hphase, hrunning]

theorem pursues_of_same {s : Course} {r : Record} (hstage : r.after.stage = r.before.stage)
    (hsummary : r.after.summary = r.before.summary) (hbegins : r.begins = false)
    (hattempts : r.attempts = 0) (hfails : r.fails = false)
    (hactive : r.after.active = none → r.drops ∨ r.before.active = none ∧ r.subscribes = false) :
    Pursues s r := by
  refine .goesOn (milestone?_of_same hsummary hbegins hattempts hfails) ?_ hstage
    (.inr (congrArg Summary.retryCount hsummary)) hactive
  intro hattempt
  exact absurd rfl (List.countP_eq_zero.mp hattempts .attempt hattempt)

/-- What leaves the subscription alone as well. -/
theorem pursues_of_kept {s : Course} {r : Record} (hstage : r.after.stage = r.before.stage)
    (hsummary : r.after.summary = r.before.summary) (hactive : r.after.active = r.before.active)
    (hbegins : r.begins = false) (hattempts : r.attempts = 0) (hfails : r.fails = false)
    (hsubscribes : r.subscribes = false) : Pursues s r :=
  pursues_of_same hstage hsummary hbegins hattempts hfails
    fun hnone => .inr ⟨hactive.symm.trans hnone, hsubscribes⟩

theorem Transition.pursues {s : Course} {r : Record} (h : Transition s r) : Pursues s r := by
  cases h with
  | starts hevent hanswer hacts hcycle _ _ hafter =>
    have hbegins : r.begins = true := by simp [Record.begins, hevent, hanswer]
    refine .begins ?_ (by simp [hacts]) hbegins ?_
    · simp [Record.milestone?, hbegins]
    · rw [hafter]
      rfl
  | tries hevent hacts _ hcycle hafter =>
    refine .tries ?_ (by simp [hacts]) ?_ ?_
    · simp [Record.milestone?, Record.begins, Record.attempts, hevent, hacts, Act.isAttempt]
    · rcases hcycle with hcycle | ⟨wake, hdue, hcycle⟩
      · exact .inl (by simp [Channel.stage, hcycle])
      · exact .inr ⟨wake, hdue, by simp [Channel.stage, hcycle]⟩
    · rw [hafter]
      rfl
  | fails failure hevent hacts hgo hcycle hafter =>
    refine .falls ?_ (by simp [hacts]) (by simp [Record.duration, hevent])
      (by simp [Channel.stage, hcycle]) hafter
    simp [Record.milestone?, Record.begins, Record.attempts, Record.fails, hevent, hacts, hgo]
  | loses link hevent hacts hgo hcycle hafter =>
    refine .falls ?_ (by simp [hacts]) (by simp [Record.duration, hevent])
      (by simp [Channel.stage, hcycle]) hafter
    have hopen : r.before.phase = .open := by rw [Channel.phase, hcycle]
    have hclosed : r.after.phase = .closed := by rw [hafter, (r.before.fall_spec s.now).2.2.2.1]
    simp [Record.milestone?, Record.begins, Record.attempts, Record.loses, Record.closes,
      Channel.isOpen_eq, hopen, hclosed, hevent, hacts, hgo]
  | stops version hevent hacts hshut hrunning hafter =>
    refine .stops ?_ (by simp [hacts]) (by rw [hafter]; rfl)
    have hended : r.after.isRunning = false := by rw [hafter]; rfl
    rcases hevent with hevent | ⟨result, hevent⟩
    · simp [Record.milestone?, Record.begins, Record.attempts, Record.fails, Record.loses,
        Record.ends, hevent, hacts, hshut, hrunning, hended]
    · cases result <;>
        simp [Record.milestone?, Record.begins, Record.attempts, Record.fails, Record.loses,
          Record.ends, hevent, hacts, hshut, hrunning, hended]
  | opens hevent hacts hgo hcycle hafter =>
    have hstage : r.before.stage = .trying := by simp [Channel.stage, hcycle]
    refine .goesOn ?_ (by simp [hacts]) ?_ (.inl hstage) fun hnone => .inr ⟨?_, ?_⟩
    · simp [Record.milestone?, Record.begins, Record.attempts, Record.fails, Record.loses,
        Record.closes, Record.ends, Channel.isOpen_eq, Channel.isRunning, Channel.phase, hafter,
        Channel.touch, hevent, hacts, hcycle]
    · rw [hstage, hafter]
      rfl
    · rw [hafter] at hnone
      exact hnone
    · simp [Record.subscribes, hevent]
  -- What follows happens within a connection, or to none.
  | writes link frame rest hevent hcycle houtgoing hacts hafter =>
    exact pursues_of_kept (by simp [hafter, Channel.stage, hcycle])
      (by simp [hafter, Channel.summary, Channel.phase, Channel.isRunning, hcycle])
      (by rw [hafter]) (by simp [Record.begins, hevent])
      (by simp [Record.attempts, hacts, Act.isAttempt]) (by simp [Record.fails, hevent])
      (by simp [Record.subscribes, hevent])
  | takes link frame rest hevent hcycle _ hincoming hacts hafter =>
    exact pursues_of_kept (by simp [hafter, Channel.stage, hcycle])
      (by simp [hafter, Channel.summary, Channel.phase, Channel.isRunning, hcycle])
      (by rw [hafter]) (by simp [Record.begins, hevent])
      (by simp [Record.attempts, hacts, Channel.attempts_dispatch]) (by simp [Record.fails, hevent])
      (by simp [Record.subscribes, hevent])
  | refuses hevent hanswer hacts hafter =>
    exact pursues_of_kept (by rw [hafter]) (by rw [hafter]) (by rw [hafter])
      (by simp [Record.begins, hevent, hanswer]) (by simp [Record.attempts, hacts])
      (by simp [Record.fails, hevent]) (by simp [Record.subscribes, hevent])
  | passes _ hevent hacts hafter =>
    exact pursues_of_kept (by rw [hafter]) (by rw [hafter]) (by rw [hafter])
      (by simp [Record.begins, hevent]) (by simp [Record.attempts, hacts])
      (by simp [Record.fails, hevent]) (by simp [Record.subscribes, hevent])
  | shuts hevent hacts hafter =>
    exact pursues_of_kept (by rw [hafter]; rfl) (by rw [hafter]; rfl) (by rw [hafter])
      (by simp [Record.begins, hevent]) (by simp [Record.attempts, hacts])
      (by simp [Record.fails, hevent]) (by simp [Record.subscribes, hevent])
  | receives _ hevent hacts hafter | deafens hevent hacts hafter =>
    exact pursues_of_kept (by rw [hafter, stage_onLink])
      (by rw [hafter, Channel.summary_onLink]) (by rw [hafter, Channel.onLink_active])
      (by simp [Record.begins, hevent]) (by simp [Record.attempts, hacts])
      (by simp [Record.fails, hevent]) (by simp [Record.subscribes, hevent])
  | unsubscribes hevent hacts hafter =>
    exact pursues_of_same (by rw [hafter]; rfl) (by rw [hafter]; rfl)
      (by simp [Record.begins, hevent]) (by simp [Record.attempts, hacts])
      (by simp [Record.fails, hevent]) fun _ => .inl (by simp [Record.drops, hevent])
  | subscribes taskId hevent hacts hafter =>
    refine pursues_of_same (by rw [hafter, stage_onLink]; rfl)
      (by rw [hafter, Channel.summary_onLink]; rfl) (by simp [Record.begins, hevent])
      (by simp [Record.attempts, hacts]) (by simp [Record.fails, hevent]) ?_
    intro hnone
    rw [hafter, Channel.onLink_active] at hnone
    cases hnone

theorem isRunning_of_stage {c : Channel} (h : c.stage ≠ .absent) : c.isRunning = true := by
  unfold Channel.stage at h
  unfold Channel.isRunning
  split
  · next hcycle =>
    rw [hcycle] at h
    exact absurd rfl h
  · rfl

/-- No event changes the settings. -/
theorem Transition.settings {s : Course} {r : Record} (h : Transition s r) :
    r.after.settings = r.before.settings := by
  cases h with
  | subscribes _ _ _ hafter =>
    rw [hafter, Channel.settings_onLink]
    rfl
  | receives _ _ _ hafter | deafens _ _ hafter => rw [hafter, Channel.settings_onLink]
  | fails _ _ _ _ _ hafter | loses _ _ _ _ _ hafter => rw [hafter, Channel.settings_fall]
  | refuses _ _ _ hafter | passes _ _ _ hafter => rw [hafter]
  | unsubscribes _ _ hafter | shuts _ _ hafter =>
    rw [hafter]
    rfl
  | starts _ _ _ _ _ _ hafter | tries _ _ _ _ hafter | opens _ _ _ _ hafter
  | writes _ _ _ _ _ _ _ hafter | takes _ _ _ _ _ _ _ _ hafter | stops _ _ _ _ _ hafter =>
    rw [hafter]
    rfl

/-- Time passes by no other events. -/
theorem Event.pass_eq {r : Record} (now : Nat) : r.event.pass now = now + r.duration := by
  unfold Event.pass Record.duration
  cases r.event <;> rfl

/-- A channel falls into a wait only with retries left and a subscription. -/
theorem stage_fall (c : Channel) (now : Nat) :
    (c.fall now).stage = .absent ∨
      (c.fall now).stage = .waiting (now + c.delay) ∧ (c.fall now).retryCount < c.maxRetry ∧
        c.active ≠ none := by
  unfold Channel.fall
  dsimp only
  split
  · exact .inl rfl
  · next hgo =>
    simp only [Bool.or_eq_true, decide_eq_true_eq, Option.isNone_iff_eq_none, not_or] at hgo
    exact .inr ⟨rfl, Nat.lt_of_not_le hgo.1.2, hgo.2⟩

/-! ### Histories -/

section Histories

variable (history : List Record) (r : Record)

theorem elapsed_concat : elapsed (history ++ [r]) = elapsed history + r.duration := by
  simp [elapsed]

theorem milestones_concat :
    milestones (history ++ [r]) = milestones history ++ r.milestone?.toList := by
  unfold milestones
  rw [List.filterMap_append]
  cases hmark : r.milestone? with
  | none => rw [List.filterMap_cons_none hmark]; rfl
  | some milestone => rw [List.filterMap_cons_some hmark]; rfl

theorem since_concat :
    since (history ++ [r]) = if r.milestone?.isNone then since history ++ [r] else [] :=
  List.rtakeWhile_concat ..

theorem punctual_append (l m : List Record) (now : Nat) :
    punctual now (l ++ m) = (punctual now l && punctual (now + elapsed l) m) := by
  induction l generalizing now with
  | nil => rfl
  | cons r l ih =>
    have helapsed : elapsed (r :: l) = r.duration + elapsed l := List.sum_cons
    rw [List.cons_append, punctual, punctual, ih, helapsed, Nat.add_assoc, Bool.and_assoc]

end Histories

theorem Forsaken.concat {history : List Record} {r : Record} (h : Forsaken history)
    (hsubscribes : r.subscribes = false) (hmark : r.milestone? = none) :
    Forsaken (history ++ [r]) := by
  obtain ⟨l, u, m, rfl, hu, hwaiting, hquiet⟩ := h
  refine ⟨l, u, m ++ [r], by simp, hu, hwaiting, ?_⟩
  intro x hx
  rcases List.mem_append.mp hx with hold | hnew
  · exact hquiet x hold
  · rw [List.mem_singleton.mp hnew]
    exact ⟨hsubscribes, hmark⟩

/-! ### Between two milestones -/

/-- A cycle waits for the time `wake` to try again. -/
structure Awaits (p : PushSettings) (s : Course) (wake : Nat) : Prop where
  fallen : (milestones s.history).getLast? = some (.fallen false)
  wake_eq : wake + elapsed (since s.history) = s.now + p.reconnectDelay
  retryCount_lt : s.channel.retryCount < p.maxRetry
  forsaken : s.channel.active = none → Forsaken s.history
  punctual : s.Punctual → s.now ≤ wake

/-- **Invariant.** A cycle that is to try next knows why. -/
structure Poised (p : PushSettings) (s : Course) : Prop where
  clock : s.now = elapsed s.history
  settings : s.channel.settings = (p.reconnectDelay, p.maxRetry)
  starting : s.channel.stage = .starting → (milestones s.history).getLast? = some .begun
  waiting : ∀ wake, s.channel.stage = .waiting wake → s.Awaits p wake

variable {p : PushSettings} {s s' : Course} {r : Record}

theorem Punctual.before (h : s'.Punctual) (hs : Continues s r s') :
    s.Punctual ∧
      (r.duration = 0 ∨ r.before.ready (elapsed s.history + r.duration - 1) = false) := by
  unfold Punctual at h ⊢
  rw [hs.history, punctual_append] at h
  simpa [punctual] using h

theorem Awaits.step {wake : Nat} (h : s.Awaits p wake) (hclock : s.now = elapsed s.history)
    (hs : Continues s r s') (hwaiting : r.before.stage = .waiting wake)
    (hmark : r.milestone? = none) (hcount : r.after.retryCount = r.before.retryCount)
    (hactive : r.after.active = none →
      r.drops ∨ r.before.active = none ∧ r.subscribes = false) :
    s'.Awaits p wake := by
  have hnow : s'.now = s.now + r.duration := by rw [hs.now, Event.pass_eq]
  constructor
  · rw [hs.history, milestones_concat, hmark]
    simpa using h.fallen
  · rw [hs.history, since_concat, hmark, if_pos Option.isNone_none, elapsed_concat, hnow]
    have hearlier := h.wake_eq
    omega
  · rw [hs.channel, hcount, hs.before]
    exact h.retryCount_lt
  · intro hnone
    rw [hs.channel] at hnone
    rw [hs.history]
    rcases hactive hnone with hdropped | ⟨hbefore, hsubscribes⟩
    · refine ⟨s.history, r, [], rfl, hdropped, ?_, List.forall_mem_nil _⟩
      rw [hwaiting]
      rfl
    · exact (h.forsaken (hs.before ▸ hbefore)).concat hsubscribes hmark
  · -- A punctual course does not let time pass while the cycle is due.
    intro hpunctual
    obtain ⟨hearlier, hidle⟩ := hpunctual.before hs
    have hle := h.punctual hearlier
    rcases hidle with hzero | hidle
    · omega
    · have hearly : ¬ wake ≤ elapsed s.history + r.duration - 1 := by
        intro hdue
        rw [Channel.ready_of_waiting hwaiting hdue] at hidle
        cases hidle
      omega

/-- A wait begins. -/
theorem awaits_of_falls (hsettings : s.channel.settings = (p.reconnectDelay, p.maxRetry))
    (hs : Continues s r s') (hmark : r.milestone? = some (.fallen r.ends))
    (hduration : r.duration = 0) (hafter : r.after = r.before.fall s.now) {wake : Nat}
    (hwaiting : r.after.stage = .waiting wake) : s'.Awaits p wake := by
  obtain ⟨hdelay, hmax⟩ := Prod.mk.inj hsettings
  have hnow : s'.now = s.now := by rw [hs.now, Event.pass_eq, hduration, Nat.add_zero]
  have hgoesOn : r.ends = false := by
    have hrunning : r.after.isRunning = true := isRunning_of_stage (by simp [hwaiting])
    simp [Record.ends, hrunning]
  rcases stage_fall r.before s.now with habsent | ⟨hstage, hcount, hactive⟩
  · rw [hafter, habsent] at hwaiting
    cases hwaiting
  · rw [hafter, hstage, hs.before] at hwaiting
    have hwake := Stage.waiting.inj hwaiting
    constructor
    · rw [hs.history, milestones_concat, hmark, hgoesOn]
      exact List.getLast?_concat
    · have hsince : since s'.history = [] := by
        rw [hs.history, since_concat, hmark]
        rfl
      have hzero : elapsed (since s'.history) = 0 := by rw [hsince]; rfl
      omega
    · rw [hs.channel, hafter]
      rw [hs.before] at hcount ⊢
      exact hmax ▸ hcount
    · intro hnone
      rw [hs.channel, hafter, Channel.fall_active] at hnone
      exact absurd hnone hactive
    · intro _
      omega

theorem Poised.step (h : s.Poised p) (hs : Continues s r s') : s'.Poised p := by
  have hclock : s'.now = elapsed s'.history := by
    rw [hs.now, hs.history, elapsed_concat, Event.pass_eq, h.clock]
  have hsettings : s'.channel.settings = (p.reconnectDelay, p.maxRetry) := by
    rw [hs.channel, hs.transition.settings, hs.before, h.settings]
  refine ⟨hclock, hsettings, ?_, ?_⟩
  · intro hstarting
    rw [hs.channel] at hstarting
    rw [hs.history, milestones_concat]
    cases hs.transition.pursues with
    | begins hmark =>
      rw [hmark]
      exact List.getLast?_concat
    | goesOn hmark _ hstage =>
      rw [hmark, Option.toList_none, List.append_nil]
      exact h.starting (by rw [← hs.before, ← hstage, hstarting])
    | tries _ _ _ hstage | stops _ _ hstage => simp [hstage] at hstarting
    | falls _ _ _ _ hafter =>
      rcases stage_fall r.before s.now with hstage | ⟨hstage, -⟩ <;>
        simp [hafter, hstage] at hstarting
  · intro wake hwaiting
    rw [hs.channel] at hwaiting
    cases hs.transition.pursues with
    | begins _ _ _ hstage | tries _ _ _ hstage | stops _ _ hstage => simp [hstage] at hwaiting
    | falls hmark _ hduration _ hafter =>
      exact awaits_of_falls h.settings hs hmark hduration hafter hwaiting
    | goesOn hmark _ hstage hcount hactive =>
      have hbefore : r.before.stage = .waiting wake := by rw [← hstage, hwaiting]
      have hsame : r.after.retryCount = r.before.retryCount := by
        rcases hcount with htrying | hsame
        · rw [htrying] at hbefore
          cases hbefore
        · exact hsame
      exact (h.waiting wake (hs.before ▸ hbefore)).step h.clock hs hbefore hmark hsame hactive

theorem poised_of_reaches (h : Reaches (opened p) s) : s.Poised p := by
  induction h with
  | refl => exact ⟨rfl, rfl, nofun, nofun⟩
  | step e _ hs ih =>
    obtain ⟨r, hcontinues⟩ := continues_of_step hs
    exact ih.step hcontinues

/-! ### Attempts -/

/-- The first attempt of a cycle comes at once, and every other one after the wait. -/
theorem attempted_cases (h : Reaches (opened p) s) {l m : List Record}
    (hsplit : s.history = l ++ r :: m) (hattempt : .attempt ∈ r.acts) :
    (milestones l).getLast? = some .begun ∨
      (milestones l).getLast? = some (.fallen false) ∧
        p.reconnectDelay ≤ elapsed (since l) ∧
        (s.Punctual → elapsed (since l) = p.reconnectDelay) ∧
        r.before.retryCount < p.maxRetry ∧ (r.before.active = none → Forsaken l) := by
  obtain ⟨s₁, s₂, hreach, rfl, hcontinues, -⟩ := continues_of_history rfl h hsplit
  have hpoised := poised_of_reaches hreach
  cases hcontinues.transition.pursues with
  | tries _ _ hbefore =>
    rw [hcontinues.before] at hbefore ⊢
    rcases hbefore with hstarting | ⟨wake, hdue, hwaiting⟩
    · exact .inl (hpoised.starting hstarting)
    · have hawaits := hpoised.waiting wake hwaiting
      have hwake := hawaits.wake_eq
      refine .inr ⟨hawaits.fallen, by omega, ?_, hawaits.retryCount_lt, hawaits.forsaken⟩
      intro hpunctual
      have hearlier : s₁.Punctual := by
        unfold Punctual at hpunctual ⊢
        rw [hsplit, punctual_append] at hpunctual
        exact (Bool.and_eq_true_iff.mp hpunctual).1
      have hle := hawaits.punctual hearlier
      omega
  | begins _ hacts | falls _ hacts | stops _ hacts | goesOn _ hacts => exact absurd hattempt hacts

/-! ### After the subscription was dropped -/

/-- To drop the subscription is no more than that. -/
theorem Transition.drops (h : Transition s r) (hdrops : r.drops = true) :
    r.milestone? = none ∧ r.after = { r.before with active := none } := by
  have hevent : r.event = .unsubscribe := by
    unfold Record.drops at hdrops
    split at hdrops
    · assumption
    · cases hdrops
  cases h with
  | unsubscribes _ hacts hafter =>
    refine ⟨?_, hafter⟩
    exact milestone?_of_same (by rw [hafter]; rfl) (by simp [Record.begins, hevent])
      (by simp [Record.attempts, hacts]) (by simp [Record.fails, hevent])
  | stops _ hother =>
    rcases hother with hother | ⟨_, hother⟩ <;> rw [hevent] at hother <;> cases hother
  | starts hother | refuses hother | subscribes _ hother | shuts hother | passes _ hother
  | receives _ hother | deafens hother | tries hother | opens hother | fails _ hother
  | writes _ _ _ hother | takes _ _ _ hother | loses _ hother =>
    rw [hevent] at hother
    cases hother

/-- Without a subscription there is none until the next one. -/
theorem Handles.active_eq_none (h : Handles s r) (hsubscribes : r.subscribes = false)
    (hnone : r.before.active = none) : r.after.active = none := by
  cases h with
  | opens _ _ _ _ hactive | receives _ _ _ hactive => rw [hactive, hnone]
  | tells _ hevent => simp [Record.subscribes, hevent] at hsubscribes
  | writes _ _ _ _ _ _ _ hafter | takes _ _ _ _ _ _ _ hafter => rw [hafter, hnone]
  | ignores _ _ _ _ hactive =>
    rcases hactive with hsame | hnone'
    · rw [hsame, hnone]
    · exact hnone'

theorem active_of_dropped {s₀ : Course} (h : Reaches s₀ s) (hnone : s₀.channel.active = none)
    {m : List Record} (hhistory : s.history = s₀.history ++ m)
    (hsubscribes : ∀ x ∈ m, x.subscribes = false) : s.channel.active = none := by
  refine history_induction
    (motive := fun m s => (∀ x ∈ m, x.subscribes = false) → s.channel.active = none)
    h hhistory ?_ ?_ hsubscribes
  · intro _
    exact hnone
  · intro m s r s' _ _ hcontinues ih hsubscribes
    have hbefore := ih fun x hx => hsubscribes x (List.mem_append_left _ hx)
    have hquiet := hsubscribes r (List.mem_append_right _ List.mem_cons_self)
    rw [hcontinues.channel]
    exact hcontinues.transition.handles.active_eq_none hquiet (hcontinues.before ▸ hbefore)

/-- A forsaken cycle has fallen last, and is still without a subscription. -/
theorem Forsaken.spec (hforsaken : Forsaken s.history) (h : Reaches (opened p) s) :
    (milestones s.history).getLast? = some (.fallen false) ∧ s.channel.active = none := by
  obtain ⟨l, u, m, hsplit, hdrops, hwaiting, hquiet⟩ := hforsaken
  obtain ⟨s₁, s₂, hreach, rfl, hcontinues, hlater⟩ := continues_of_history rfl h hsplit
  obtain ⟨hmark, hafter⟩ := hcontinues.transition.drops hdrops
  constructor
  · have hnone : (u :: m).filterMap Record.milestone? = [] := by
      rw [List.filterMap_eq_nil_iff]
      intro x hx
      rcases List.mem_cons.mp hx with rfl | hx
      · exact hmark
      · exact (hquiet x hx).2
    obtain ⟨wake, hstage⟩ := Stage.isWaiting_iff.mp hwaiting
    rw [hcontinues.before] at hstage
    rw [hsplit, milestones, List.filterMap_append, hnone, List.append_nil]
    exact ((poised_of_reaches hreach).waiting wake hstage).fallen
  · refine active_of_dropped hlater ?_ ?_ fun x hx => (hquiet x hx).1
    · rw [hcontinues.channel, hafter]
    · rw [hsplit, hcontinues.history, List.append_assoc]
      rfl

/-- **Invariant.** What is left for a cycle to do after its subscription was dropped. -/
structure Remains (c₀ : Channel) (m : List Record) (c : Channel) : Prop where
  tried : (milestones m).count .tried + c.stage.isStarting.toNat ≤ c₀.stage.isStarting.toNat
  fallen : (milestones m).countP Milestone.isFallen + c.stage.isUnderWay.toNat ≤
    c₀.stage.isUnderWay.toNat
  waiting : c.stage.isWaiting → c₀.stage.isWaiting ∧ milestones m = []

theorem Remains.step {c₀ : Channel} {m : List Record} (h : Remains c₀ m s.channel)
    (hs : Continues s r s') (hnone : s.channel.active = none) (hbegins : r.begins = false)
    (hkept : c₀.stage.isWaiting → milestones m = [] → .attempt ∉ r.acts) :
    Remains c₀ (m ++ [r]) s'.channel := by
  obtain ⟨htried, hfallen, hwaiting⟩ := h
  rw [← hs.before] at htried hfallen hwaiting hnone
  have hmilestones := milestones_concat m r
  rw [hs.channel]
  cases hs.transition.pursues with
  | begins _ _ hbegins' => simp [hbegins] at hbegins'
  | tries hmark hacts hbefore hstage =>
    rcases hbefore with hstarting | ⟨wake, -, hwaits⟩
    · constructor
      · simpa [hmilestones, hmark, hstage, hstarting, Stage.isStarting] using htried
      · simpa [hmilestones, hmark, hstage, hstarting, Stage.isUnderWay, Milestone.isFallen]
          using hfallen
      · simp [hstage, Stage.isWaiting]
    · obtain ⟨hwaited, hnothing⟩ := hwaiting (by simp [hwaits, Stage.isWaiting])
      exact absurd hacts (hkept hwaited hnothing)
  | falls hmark _ _ hbefore hafter =>
    -- It has no subscription to wait for.
    have hstage : r.after.stage = .absent := by
      rw [hafter]
      rcases stage_fall r.before s.now with habsent | ⟨-, -, hactive⟩
      · exact habsent
      · exact absurd hnone hactive
    constructor
    · simpa [hmilestones, hmark, hstage, hbefore, Stage.isStarting] using htried
    · simpa [hmilestones, hmark, hstage, hbefore, Stage.isUnderWay, Milestone.isFallen]
        using hfallen
    · simp [hstage, Stage.isWaiting]
  | stops hmark _ hstage =>
    have hidle : r.after.stage.isStarting = false ∧ r.after.stage.isUnderWay = false := by
      rw [hstage]
      exact ⟨rfl, rfl⟩
    have hcounts : (milestones (m ++ [r])).count .tried = (milestones m).count .tried ∧
        (milestones (m ++ [r])).countP Milestone.isFallen =
          (milestones m).countP Milestone.isFallen := by
      simp [hmilestones, hmark, Milestone.isFallen]
    refine ⟨?_, ?_, by simp [hstage, Stage.isWaiting]⟩
    · rw [hcounts.1, hidle.1]
      exact Nat.le_trans (Nat.le_add_right _ _) htried
    · rw [hcounts.2, hidle.2]
      exact Nat.le_trans (Nat.le_add_right _ _) hfallen
  | goesOn hmark _ hstage =>
    have hsame : milestones (m ++ [r]) = milestones m := by
      rw [hmilestones, hmark, Option.toList_none, List.append_nil]
    rw [← hstage, ← hsame] at htried hfallen hwaiting
    exact ⟨htried, hfallen, hwaiting⟩

theorem remains_of_reaches {s₀ : Course} (h : Reaches s₀ s)
    (hnone : s₀.channel.active = none) {m : List Record} (hhistory : s.history = s₀.history ++ m)
    (hquiet : ∀ x ∈ m, x.subscribes = false ∧ x.begins = false)
    (hkept : ∀ k x n, m = k ++ x :: n → s₀.channel.stage.isWaiting → milestones k = [] →
      .attempt ∉ x.acts) : Remains s₀.channel m s.channel := by
  refine history_induction
    (motive := fun m s => (∀ x ∈ m, x.subscribes = false ∧ x.begins = false) →
      (∀ k x n, m = k ++ x :: n → s₀.channel.stage.isWaiting → milestones k = [] →
        .attempt ∉ x.acts) → Remains s₀.channel m s.channel)
    h hhistory ?_ ?_ hquiet hkept
  · intro _ _
    exact ⟨Nat.le_of_eq (Nat.zero_add _), Nat.le_of_eq (Nat.zero_add _), fun h => ⟨h, rfl⟩⟩
  · intro m s r s' hreach hearlier hcontinues ih hquiet hkept
    have hquiet' : ∀ x ∈ m, x.subscribes = false ∧ x.begins = false :=
      fun x hx => hquiet x (List.mem_append_left _ hx)
    have hremains := ih hquiet' fun k x n hsplit =>
      hkept k x (n ++ [r]) (by rw [hsplit]; simp)
    have hnone' := active_of_dropped hreach hnone hearlier fun x hx => (hquiet' x hx).1
    exact hremains.step hcontinues hnone' (hquiet r (by simp)).2 (hkept m r [] rfl)

/-! ### Every course -/

/-- A subscription that is dropped during a wait, and not renewed until its end, is all that
    keeps a channel from reconnecting as it should. -/
theorem abides_iff_of_due {due : Nat → Prop} (h : Reaches (opened p) s)
    (hdue : ∀ l r m, s.history = l ++ r :: m → .attempt ∈ r.acts →
      (milestones l).getLast? = some (.fallen false) → due (elapsed (since l))) :
    Abides p due s.history ↔ ¬Deserted s.history := by
  constructor
  · rintro habides ⟨l, r, m, hsplit, hattempt, hforsaken⟩
    obtain ⟨s₁, s₂, hreach, rfl, hcontinues, -⟩ := continues_of_history rfl h hsplit
    obtain ⟨hfallen, hnone⟩ := hforsaken.spec hreach
    rcases habides.attempted _ r m hsplit hattempt with hfirst | ⟨-, -, -, hactive⟩
    · rw [hfallen] at hfirst
      cases hfirst
    · rw [hcontinues.before, hnone] at hactive
      cases hactive
  · intro hkept
    constructor
    · intro l r m hsplit hattempt
      rcases attempted_cases h hsplit hattempt with
        hfirst | ⟨hfallen, -, -, hcount, hforsaken⟩
      · exact .inl hfirst
      · refine .inr ⟨hfallen, hdue l r m hsplit hattempt hfallen, hcount, ?_⟩
        rw [Option.isSome_iff_ne_none]
        intro hnone
        exact hkept ⟨l, r, m, hsplit, hattempt, hforsaken hnone⟩
    · intro l u m m' hsplit hdrops hquiet
      obtain ⟨s₁, s₂, hreach, rfl, hcontinues, hlater⟩ := continues_of_history rfl h hsplit
      obtain ⟨-, hafter⟩ := hcontinues.transition.drops hdrops
      have hhistory : s.history = s₂.history ++ m ++ m' := by rw [hsplit, hcontinues.history]; simp
      obtain ⟨s₃, hm, hhistory₃⟩ := reaches_of_history hlater hhistory
      have hremains := remains_of_reaches hm (by rw [hcontinues.channel, hafter]) hhistory₃ hquiet
        (by
          intro k x n hk hwaiting hnothing hattempt
          -- It is the wait in which the subscription was dropped that ends with the attempt.
          rw [hcontinues.channel, hafter] at hwaiting
          refine hkept ⟨s₁.history ++ u :: k, x, n ++ m', ?_, hattempt, s₁.history, u, k, rfl,
            hdrops, hwaiting, ?_⟩
          · rw [hsplit, hk]
            simp
          · intro y hy
            refine ⟨(hquiet y (by rw [hk]; exact List.mem_append_left _ hy)).1, ?_⟩
            exact List.filterMap_eq_nil_iff.mp hnothing y hy)
      rw [hcontinues.channel] at hremains
      exact ⟨Nat.le_trans (Nat.le_add_right _ _) hremains.tried,
        Nat.le_trans (Nat.le_add_right _ _) hremains.fallen⟩

/-- Reconnecting keeps to its law exactly if no subscription is dropped during a wait that then
    ends with an attempt. The attempts come right on time if time passes only while there is
    nothing to do, and else later. -/
theorem abides_iff (h : Reaches (opened p) s) :
    (Abides p (p.reconnectDelay ≤ ·) s.history ↔ ¬Deserted s.history) ∧
      (s.Punctual → (Abides p (· = p.reconnectDelay) s.history ↔ ¬Deserted s.history)) := by
  constructor
  · apply abides_iff_of_due h
    intro l r m hsplit hattempt hfallen
    rcases attempted_cases h hsplit hattempt with hfirst | ⟨-, hlate, -⟩
    · rw [hfallen] at hfirst
      cases hfirst
    · exact hlate
  · intro hpunctual
    apply abides_iff_of_due h
    intro l r m hsplit hattempt hfallen
    rcases attempted_cases h hsplit hattempt with hfirst | ⟨-, -, hexact, -⟩
    · rw [hfallen] at hfirst
      cases hfirst
    · exact hexact hpunctual

theorem not_deserted_of_all {history : List Record}
    (h : history.all fun u => !(u.drops && u.before.stage.isWaiting)) : ¬Deserted history := by
  rintro ⟨l, r, m, rfl, -, k, u, n, rfl, hdrops, hwaiting, -⟩
  rw [List.all_eq_true] at h
  have hu := h u (by simp)
  simp [hdrops, hwaiting] at hu

/-- A second attempt opens a connection, which is lost after the subscription was dropped. -/
def reconnected : List Event :=
  [.subscribe "T1", .connect, .turn, .attempted (.error .timeout), .elapsed 3000, .turn,
    .attempted (.ok ()), .turn, .unsubscribe, .received .closed, .turn, .elapsed 60000]

theorem abides_reconnected : ∃ s, play reconnected (opened usual) = some s ∧ s.Punctual ∧
    s.channel.active = none ∧
    milestones s.history = [.begun, .tried, .fallen false, .tried, .fallen true] ∧
    Abides usual (· = usual.reconnectDelay) s.history := by
  have hplayed : (play reconnected (opened usual)).isSome := by decide
  have hs := (Option.some_get hplayed).symm
  have hkept : ¬Deserted ((play reconnected (opened usual)).get hplayed).history :=
    not_deserted_of_all rfl
  exact ⟨_, hs, rfl, rfl, rfl, ((abides_iff (reaches_of_play hs)).2 rfl).mpr hkept⟩

/-- The subscription is dropped one second after an attempt has failed. -/
def deserted : List Event :=
  [.subscribe "T1", .connect, .turn, .attempted (.error .timeout), .elapsed 1000, .unsubscribe,
    .elapsed 2000, .turn, .attempted (.error .timeout)]

/-- The next attempt is made all the same, and its failure is counted. -/
theorem not_abides_deserted : ∃ s, play deserted (opened usual) = some s ∧ s.Punctual ∧
    s.channel.active = none ∧ s.channel.retryCount = 2 ∧
    ¬Abides usual (· = usual.reconnectDelay) s.history := by
  have hplayed : (play deserted (opened usual)).isSome := by decide
  refine ⟨_, (Option.some_get hplayed).symm, rfl, rfl, rfl, ?_⟩
  intro habides
  -- The attempt is the event at the place 7.
  have hsplit := (List.take_append_drop 7 ((play deserted (opened usual)).get hplayed).history).symm
  rcases habides.attempted _ _ _ hsplit (List.mem_singleton_self _) with
    hfirst | ⟨-, -, -, hactive⟩
  · cases hfirst
  · cases hactive

end Course

end TaskTracking.Push
