import Mathlib.Algebra.GroupWithZero.Nat
import TaskTracking.Proofs.Transitions

/-! # Retries of a push channel

  What the connect cycle counts is what has happened: the retry count is the
  number of failures since a connection was last opened, over however many
  cycles. It stops at the limit, where the channel is downgraded, and a
  downgraded channel never connects again.

  A channel is reduced to its `Summary`. `Transition.shift` says once what an
  event can do to it, and every law of a course follows from that, by
  induction on the course.
-/

namespace TaskTracking.Push

/-! ### Summaries -/

/-- What the retries of a channel depend on. -/
structure Summary where
  phase : Phase
  running : Bool
  retryCount : Nat
  downgraded : Bool
  maxRetry : Nat

def Channel.summary (c : Channel) : Summary where
  phase := c.phase
  running := c.isRunning
  retryCount := c.retryCount
  downgraded := c.downgraded
  maxRetry := c.maxRetry

namespace Channel

@[simp] theorem summary_onLink (c : Channel) (f : Link → Link) :
    (c.onLink f).summary = c.summary := by
  unfold onLink
  split
  · next link hcycle => simp [summary, phase, isRunning, hcycle]
  · rfl

theorem isOpen_eq (c : Channel) : c.isOpen = decide (c.phase = .open) := rfl

/-- A channel without a connect cycle is closed. -/
theorem phase_of_not_isRunning {c : Channel} (h : c.isRunning = false) : c.phase = .closed := by
  unfold isRunning at h
  unfold phase
  split at h
  · next hcycle => rw [hcycle]
  · cases h

/-- How a failed attempt or a lost connection is counted. -/
theorem fall_spec (c : Channel) (now : Nat) :
    (c.fall now).retryCount = c.retryCount + 1 ∧
      ((c.fall now).downgraded = true ↔ c.downgraded = true ∨ c.maxRetry ≤ c.retryCount + 1) ∧
      (c.fall now).maxRetry = c.maxRetry ∧ (c.fall now).phase = .closed ∧
      ((c.fall now).downgraded = true → (c.fall now).isRunning = false) := by
  -- The cycle ends if the limit is reached, and else waits before it tries again.
  unfold fall
  dsimp only
  split
  · simp [finish, touch, phase, isRunning]
  · next hgo =>
    simp only [Bool.or_eq_true, not_or, Bool.not_eq_true] at hgo
    refine ⟨rfl, by simp [touch], rfl, rfl, fun hdown => ?_⟩
    have hgood : (c.downgraded || decide (c.maxRetry ≤ c.retryCount + 1)) = false := by
      simp [hgo.1.1, hgo.1.2]
    exact absurd (hgood.symm.trans hdown) (by decide)

/-- Frames are handed on without an attempt. -/
theorem attempts_dispatch (c : Channel) (frame : String) :
    (c.dispatch frame).countP Act.isAttempt = 0 := by
  unfold dispatch
  split
  · rfl
  · split
    · split <;> rfl
    · rfl

end Channel

namespace Course

/-- The marks that an event leaves. -/
structure Marks where
  begins : Bool := false
  attempts : Nat := 0
  opens : Bool := false
  fails : Bool := false

def Record.marks (r : Record) : Marks where
  begins := r.begins
  attempts := r.attempts
  opens := r.opens
  fails := r.fails

/-! ### What an event can do -/

/-- What an event did to the summary of the channel, and which marks it left. -/
inductive Shift (r : Record) : Prop where
  | keeps (hafter : r.after.summary = r.before.summary) (hmarks : r.marks = {})
  /-- A cycle is started. -/
  | begins (hidle : r.before.isRunning = false) (hgood : r.before.downgraded = false)
      (hafter : r.after.summary = { r.before.summary with phase := .closed, running := true })
      (hmarks : r.marks = { begins := true })
  /-- The cycle begins an attempt. -/
  | tries (hrunning : r.before.isRunning = true) (hclosed : r.before.phase = .closed)
      (hafter : r.after.summary =
        { r.before.summary with phase := .connecting, running := true })
      (hmarks : r.marks = { attempts := 1 })
  | opens (hphase : r.before.phase = .connecting)
      (hafter : r.after.summary = { r.before.summary with phase := .open, retryCount := 0 })
      (hmarks : r.marks = { opens := true })
  /-- An attempt fails or the connection is lost. -/
  | falls (hphase : r.before.phase ≠ .closed) (hshut : r.before.shut = false)
      (hfails : r.fails = true ↔ r.before.phase = .connecting)
      (hcount : r.after.retryCount = r.before.retryCount + 1)
      (hdown : r.after.downgraded = true ↔
        r.before.downgraded = true ∨ r.before.maxRetry ≤ r.before.retryCount + 1)
      (hmax : r.after.maxRetry = r.before.maxRetry) (hclosed : r.after.phase = .closed)
      (hends : r.after.downgraded = true → r.after.isRunning = false)
      (hmarks : r.marks = { fails := r.fails })
  /-- The cycle finds the channel shut down. -/
  | stops (hrunning : r.before.isRunning = true) (hshut : r.before.shut = true)
      (hafter : r.after.summary = { r.before.summary with phase := .closed, running := false })
      (hmarks : r.marks = {})

/-- A failed attempt or a lost connection is counted. -/
theorem shift_fall {r : Record} {now : Nat} (hgo : r.before.shut = false)
    (hphase : r.before.phase ≠ .closed) (hafter : r.after = r.before.fall now)
    (hfails : r.fails = true ↔ r.before.phase = .connecting)
    (hmarks : r.marks = { fails := r.fails }) : Shift r := by
  obtain ⟨hcount, hdown, hmax, hclosed, hends⟩ := r.before.fall_spec now
  rw [← hafter] at hcount hdown hmax hclosed hends
  exact .falls hphase hgo hfails hcount hdown hmax hclosed hends hmarks

/-- What a transition does to the summary. -/
theorem Transition.shift {s : Course} {r : Record} (h : Transition s r) : Shift r := by
  cases h with
  | starts hevent hanswer hacts hcycle hgood hgo hafter =>
    have hidle : r.before.isRunning = false := by simp [Channel.isRunning, hcycle]
    refine .begins hidle hgood (by rw [hafter]; rfl) ?_
    simp [Record.marks, Record.begins, Record.attempts, Record.opens, Record.fails, hevent,
      hanswer, hacts]
  | refuses hevent hanswer hacts hafter =>
    refine .keeps (by rw [hafter]) ?_
    simp [Record.marks, Record.begins, Record.attempts, Record.opens, Record.fails, hevent,
      hanswer, hacts]
  | subscribes taskId hevent hacts hafter =>
    refine .keeps (by rw [hafter, Channel.summary_onLink]; rfl) ?_
    simp [Record.marks, Record.begins, Record.attempts, Record.opens, Record.fails, hevent, hacts]
  | receives _ hevent hacts hafter | deafens hevent hacts hafter =>
    refine .keeps (by rw [hafter, Channel.summary_onLink]) ?_
    simp [Record.marks, Record.begins, Record.attempts, Record.opens, Record.fails, hevent, hacts]
  | unsubscribes hevent hacts hafter | shuts hevent hacts hafter =>
    refine .keeps (by rw [hafter]; rfl) ?_
    simp [Record.marks, Record.begins, Record.attempts, Record.opens, Record.fails, hevent, hacts]
  | passes _ hevent hacts hafter =>
    refine .keeps (by rw [hafter]) ?_
    simp [Record.marks, Record.begins, Record.attempts, Record.opens, Record.fails, hevent, hacts]
  | tries hevent hacts hgo hcycle hafter =>
    -- The cycle stands between two attempts, so it runs and the channel is closed.
    have hbetween : r.before.isRunning = true ∧ r.before.phase = .closed := by
      rcases hcycle with hcycle | ⟨_, _, hcycle⟩ <;>
        simp [Channel.isRunning, Channel.phase, hcycle]
    refine .tries hbetween.1 hbetween.2 (by rw [hafter]; rfl) ?_
    simp [Record.marks, Record.begins, Record.attempts, Record.opens, Record.fails, hevent, hacts,
      Act.isAttempt]
  | opens hevent hacts hgo hcycle hafter =>
    have hphase : r.before.phase = .connecting := by rw [Channel.phase, hcycle]
    refine .opens hphase ?_ ?_
    · simp [hafter, Channel.summary, Channel.phase, Channel.isRunning, Channel.touch, hcycle]
    · simp [Record.marks, Record.begins, Record.attempts, Record.opens, Record.fails, hevent,
        hacts, hgo]
  | fails failure hevent hacts hgo hcycle hafter =>
    have hphase : r.before.phase = .connecting := by rw [Channel.phase, hcycle]
    refine shift_fall hgo (by simp [hphase]) hafter (by simp [Record.fails, hevent, hgo, hphase]) ?_
    simp [Record.marks, Record.begins, Record.attempts, Record.opens, Record.fails, hevent, hacts]
  | loses link hevent hacts hgo hcycle hafter =>
    have hphase : r.before.phase = .open := by rw [Channel.phase, hcycle]
    refine shift_fall hgo (by simp [hphase]) hafter (by simp [Record.fails, hevent, hphase]) ?_
    simp [Record.marks, Record.begins, Record.attempts, Record.opens, Record.fails, hevent, hacts]
  | writes link frame rest hevent hcycle houtgoing hacts hafter =>
    refine .keeps ?_ ?_
    · simp [hafter, Channel.summary, Channel.phase, Channel.isRunning, hcycle]
    · simp [Record.marks, Record.begins, Record.attempts, Record.opens, Record.fails, hevent,
        hacts, Act.isAttempt]
  | takes link frame rest hevent hcycle houtgoing hincoming hacts hafter =>
    refine .keeps ?_ ?_
    · simp [hafter, Channel.summary, Channel.phase, Channel.isRunning, hcycle]
    · simp [Record.marks, Record.begins, Record.attempts, Record.opens, Record.fails, hevent,
        hacts, Channel.attempts_dispatch]
  | stops version hevent hacts hshut hrunning hafter =>
    refine .stops hrunning hshut (by rw [hafter]; rfl) ?_
    rcases hevent with hevent | ⟨result, hevent⟩
    · simp [Record.marks, Record.begins, Record.attempts, Record.opens, Record.fails, hevent, hacts]
    · cases result <;>
        simp [Record.marks, Record.begins, Record.attempts, Record.opens, Record.fails, hevent,
          hacts, hshut]

/-! ### What an event adds to the accounts -/

/-- Whatever an event begins is over after it, or goes on; and the retry count goes
    up with every failure and starts again with every opening. -/
structure Balanced (r : Record) : Prop where
  cycles : r.begins.toNat + r.before.isRunning.toNat = r.ends.toNat + r.after.isRunning.toNat
  attempts : r.attempts + r.before.isConnecting.toNat =
    r.settles.toNat + r.after.isConnecting.toNat
  connections : r.opens.toNat + r.before.isOpen.toNat = r.closes.toNat + r.after.isOpen.toNat
  counted : r.after.retryCount =
    if r.opens then 0 else r.before.retryCount + (r.fails || r.loses).toNat

theorem Shift.balanced {r : Record} (h : Shift r) : Balanced r := by
  cases h with
  | keeps hafter hmarks =>
    obtain ⟨hphase, hrunning, hcount, -, -⟩ := Summary.mk.inj hafter
    obtain ⟨hbegins, hattempts, hopens, hfails⟩ := Marks.mk.inj hmarks
    constructor
    · simp [hbegins, Record.ends, hrunning]
    · simp [hattempts, Record.settles, Channel.isConnecting, hphase]
    · simp [hopens, Record.closes, Channel.isOpen_eq, hphase]
    · simp [hopens, hfails, Record.loses, Record.closes, Channel.isOpen_eq, hphase, hcount]
  | begins hidle hgood hafter hmarks =>
    obtain ⟨hphase, hrunning, hcount, -, -⟩ := Summary.mk.inj hafter
    obtain ⟨hbegins, hattempts, hopens, hfails⟩ := Marks.mk.inj hmarks
    have hclosed := Channel.phase_of_not_isRunning hidle
    constructor
    · simp [hbegins, Record.ends, hidle, hrunning]
    · simp [hattempts, Record.settles, Channel.isConnecting, hclosed, hphase]
    · simp [hopens, Record.closes, Channel.isOpen_eq, hclosed, hphase]
    · simp [hopens, hfails, Record.loses, Record.closes, Channel.isOpen_eq, hclosed, hcount,
        Channel.summary]
  | tries hbefore hclosed hafter hmarks =>
    obtain ⟨hphase, hrunning, hcount, -, -⟩ := Summary.mk.inj hafter
    obtain ⟨hbegins, hattempts, hopens, hfails⟩ := Marks.mk.inj hmarks
    constructor
    · simp [hbegins, Record.ends, hbefore, hrunning]
    · simp [hattempts, Record.settles, Channel.isConnecting, hclosed, hphase]
    · simp [hopens, Record.closes, Channel.isOpen_eq, hclosed, hphase]
    · simp [hopens, hfails, Record.loses, Record.closes, Channel.isOpen_eq, hclosed, hcount,
        Channel.summary]
  | opens hbefore hafter hmarks =>
    obtain ⟨hphase, hrunning, hcount, -, -⟩ := Summary.mk.inj hafter
    obtain ⟨hbegins, hattempts, hopens, hfails⟩ := Marks.mk.inj hmarks
    constructor
    · simp [hbegins, Record.ends, hrunning, Channel.summary]
    · simp [hattempts, Record.settles, Channel.isConnecting, hbefore, hphase]
    · simp [hopens, Record.closes, Channel.isOpen_eq, hbefore, hphase]
    · simp [hopens, hcount]
  | falls hbefore hshut hfailed hcount hdown hmax hclosed hends hmarks =>
    obtain ⟨hbegins, hattempts, hopens, -⟩ := Marks.mk.inj hmarks
    -- What falls was an attempt or an open connection, so there was a cycle.
    have hrunning : r.before.isRunning = true := by
      cases hidle : r.before.isRunning with
      | true => rfl
      | false => exact absurd (Channel.phase_of_not_isRunning hidle) hbefore
    -- It is counted once, as the one or as the other.
    have hcounts : (r.fails || r.loses) = true := by
      by_cases hconnecting : r.before.phase = .connecting
      · simp [hfailed.mpr hconnecting]
      · have hopen : r.before.phase = .open := by
          cases hphase : r.before.phase <;> simp_all
        simp [Record.loses, Record.closes, Channel.isOpen_eq, hopen, hclosed, hshut]
    constructor
    · cases hafter : r.after.isRunning <;> simp [hbegins, Record.ends, hrunning, hafter]
    · simp [hattempts, Record.settles, Channel.isConnecting, hclosed]
    · simp [hopens, Record.closes, Channel.isOpen_eq, hclosed]
    · simp [hopens, hcounts, hcount]
  | stops hbefore hshut hafter hmarks =>
    obtain ⟨hphase, hrunning, hcount, -, -⟩ := Summary.mk.inj hafter
    obtain ⟨hbegins, hattempts, hopens, hfails⟩ := Marks.mk.inj hmarks
    constructor
    · simp [hbegins, Record.ends, hbefore, hrunning]
    · simp [hattempts, Record.settles, Channel.isConnecting, hphase]
    · simp [hopens, Record.closes, Channel.isOpen_eq, hphase]
    · simp [hopens, hfails, Record.loses, hshut, hcount, Channel.summary]

end Course

/-! ### The limit -/

/-- Where the retry count stands to its limit. -/
structure Channel.Limited (p : PushSettings) (c : Channel) : Prop where
  maxRetry : c.maxRetry = p.maxRetry
  retryCount_le : c.retryCount ≤ p.maxRetry
  downgraded_iff : c.downgraded = true ↔ c.retryCount = p.maxRetry
  /-- The downgrade ends the last cycle. -/
  isRunning_eq : c.downgraded = true → c.isRunning = false

namespace Channel

variable {p : PushSettings} {c : Channel}

theorem limited_ofSettings (hp : 1 ≤ p.maxRetry) : (ofSettings p).Limited p where
  maxRetry := rfl
  retryCount_le := Nat.zero_le _
  downgraded_iff := by
    constructor
    · intro h
      cases h
    · intro h
      have hzero : 0 = p.maxRetry := h
      omega
  isRunning_eq h := by cases h

/-- A channel that still connects, or is connected, has retries left. -/
theorem Limited.lt_of_phase (h : c.Limited p) (hphase : c.phase ≠ .closed) :
    c.downgraded = false ∧ c.retryCount < p.maxRetry := by
  have hgood : c.downgraded = false := by
    cases hdown : c.downgraded with
    | false => rfl
    | true => exact absurd (phase_of_not_isRunning (h.isRunning_eq hdown)) hphase
  have hne : c.retryCount ≠ p.maxRetry := by
    intro heq
    have hdown := h.downgraded_iff.mpr heq
    rw [hgood] at hdown
    cases hdown
  have hle := h.retryCount_le
  exact ⟨hgood, by omega⟩

/-- A change that leaves the count and the downgrade as they are. -/
theorem Limited.congr {c' : Channel} (h : c.Limited p) (hmax : c'.maxRetry = c.maxRetry)
    (hcount : c'.retryCount = c.retryCount) (hdown : c'.downgraded = c.downgraded)
    (hrunning : c.downgraded = true → c'.isRunning = false) : c'.Limited p where
  maxRetry := hmax.trans h.maxRetry
  retryCount_le := hcount ▸ h.retryCount_le
  downgraded_iff := by rw [hdown, hcount]; exact h.downgraded_iff
  isRunning_eq hd := hrunning (hdown ▸ hd)

end Channel

namespace Course

theorem Shift.limited {p : PushSettings} {r : Record} (hp : 1 ≤ p.maxRetry) (hshift : Shift r)
    (h : r.before.Limited p) : r.after.Limited p := by
  cases hshift with
  | keeps hafter _ =>
    obtain ⟨-, hrunning, hcount, hdown, hmax⟩ := Summary.mk.inj hafter
    exact h.congr hmax hcount hdown fun hd => hrunning.trans (h.isRunning_eq hd)
  -- No cycle is started or goes on once the channel is downgraded.
  | begins _ hgood hafter _ =>
    obtain ⟨-, -, hcount, hdown, hmax⟩ := Summary.mk.inj hafter
    exact h.congr hmax hcount hdown fun hd => by simp [hgood] at hd
  | tries hbefore _ hafter _ =>
    obtain ⟨-, -, hcount, hdown, hmax⟩ := Summary.mk.inj hafter
    exact h.congr hmax hcount hdown fun hd => by simp [h.isRunning_eq hd] at hbefore
  | stops _ _ hafter _ =>
    obtain ⟨-, hrunning, hcount, hdown, hmax⟩ := Summary.mk.inj hafter
    exact h.congr hmax hcount hdown fun _ => hrunning
  | opens hphase hafter _ =>
    obtain ⟨-, -, hcount, hdown, hmax⟩ := Summary.mk.inj hafter
    -- The count starts again, and is not at the limit, which is at least one.
    have hgood : r.after.downgraded = false :=
      hdown.trans (h.lt_of_phase (by simp [hphase])).1
    exact {
      maxRetry := hmax.trans h.maxRetry
      retryCount_le := by omega
      downgraded_iff := by
        rw [hgood, hcount]
        constructor
        · intro hd
          cases hd
        · intro heq
          omega
      isRunning_eq := fun hd => by simp [hgood] at hd }
  | falls hphase _ _ hcount hdown hmax _ hends _ =>
    -- There was a retry left; the downgrade comes exactly with the last one.
    obtain ⟨hgood, hlt⟩ := h.lt_of_phase hphase
    have hlimit := h.maxRetry
    exact {
      maxRetry := hmax.trans h.maxRetry
      retryCount_le := by omega
      downgraded_iff := by
        rw [hdown, hgood, hcount]
        constructor
        · rintro (hd | hle)
          · cases hd
          · omega
        · intro heq
          exact .inr (by omega)
      isRunning_eq := hends }

/-! ### Accounts of a course -/

/-- The number of attempts that were begun. -/
def attempts (history : List Record) : Nat := (history.map Record.attempts).sum

/-- The counters of the channel are those of its history. -/
structure Accounted (s : Course) : Prop where
  counted : s.channel.retryCount = failures s.history
  cycles : s.history.countP Record.begins =
    s.history.countP Record.ends + s.channel.isRunning.toNat
  attempts : attempts s.history =
    s.history.countP Record.settles + s.channel.isConnecting.toNat
  connections : s.history.countP Record.opens =
    s.history.countP Record.closes + s.channel.isOpen.toNat

/-- An opening starts the count again, a failure adds to it. -/
theorem failures_concat (history : List Record) (r : Record) :
    failures (history ++ [r]) =
      if r.opens then 0 else failures history + (r.fails || r.loses).toNat := by
  unfold failures
  cases hopens : r.opens <;>
    cases hcounts : r.fails || r.loses <;>
      simp [hopens, hcounts]

theorem countP_concat (mark : Record → Bool) (history : List Record) (r : Record) :
    (history ++ [r]).countP mark = history.countP mark + (mark r).toNat := by
  cases hmark : mark r <;> simp [hmark]

theorem attempts_concat (history : List Record) (r : Record) :
    attempts (history ++ [r]) = attempts history + r.attempts := by
  simp [attempts]

/-- What a step does: it changes the channel and notes how. -/
theorem step_spec {s s' : Course} {e : Event} (hs : s.step e = some s') :
    ∃ r, Shift r ∧ r.before = s.channel ∧ s'.channel = r.after ∧
      s'.history = s.history ++ [r] := by
  obtain ⟨r, hcontinues⟩ := continues_of_step hs
  exact ⟨r, hcontinues.transition.shift, hcontinues.before, hcontinues.channel,
    hcontinues.history⟩

theorem Accounted.step {s s' : Course} {e : Event} (h : s.Accounted) (hs : s.step e = some s') :
    s'.Accounted := by
  obtain ⟨r, hshift, hbefore, hchannel, hhistory⟩ := step_spec hs
  -- Each account grows by what the event has balanced.
  obtain ⟨hcycles, hattempts, hconnections, hcounted⟩ := hshift.balanced
  rw [hbefore] at hcycles hattempts hconnections hcounted
  obtain ⟨hcounted₀, hcycles₀, hattempts₀, hconnections₀⟩ := h
  constructor
  · rw [hchannel, hhistory, failures_concat, hcounted, hcounted₀]
  · rw [hchannel, hhistory, countP_concat, countP_concat]
    omega
  · rw [hchannel, hhistory, attempts_concat, countP_concat]
    omega
  · rw [hchannel, hhistory, countP_concat, countP_concat]
    omega

/-! ### After the downgrade -/

/-- The channel is downgraded, closed, and refuses to connect or to subscribe at once. -/
structure Spent (c : Channel) : Prop where
  downgraded : c.downgraded = true
  closed : c.phase = .closed
  connect : c.connect.2 = false
  subscribe : ∀ taskId, (c.subscribe taskId).2 = false

/-- Only an open connection is told of a subscription at once. -/
theorem subscribe_eq_false {c : Channel} (h : c.phase = .closed) (taskId : String) :
    (c.subscribe taskId).2 = false := by
  unfold Channel.subscribe
  dsimp only
  split
  · next link hcycle =>
    have hopen : c.phase = .open := by rw [Channel.phase, hcycle]
    rw [h] at hopen
    cases hopen
  · rfl

theorem spent_of_downgraded {p : PushSettings} {c : Channel} (h : c.Limited p)
    (hdown : c.downgraded = true) : Spent c where
  downgraded := hdown
  closed := Channel.phase_of_not_isRunning (h.isRunning_eq hdown)
  connect := by rw [Channel.connect_eq, if_pos (by simp [hdown])]
  subscribe := subscribe_eq_false (Channel.phase_of_not_isRunning (h.isRunning_eq hdown))

/-- Nothing happens to a downgraded channel that it could try again for. -/
theorem Shift.quiet {p : PushSettings} {r : Record} (hshift : Shift r) (h : r.before.Limited p)
    (hdown : r.before.downgraded = true) : r.after.downgraded = true ∧ r.attempts = 0 := by
  have hidle := h.isRunning_eq hdown
  have hclosed := Channel.phase_of_not_isRunning hidle
  -- Whatever would begin something needs a cycle, and there is none.
  cases hshift with
  | keeps hafter hmarks =>
    exact ⟨(congrArg Summary.downgraded hafter).trans hdown, congrArg Marks.attempts hmarks⟩
  | begins _ hgood => simp [hdown] at hgood
  | tries hrunning | stops hrunning => simp [hidle] at hrunning
  | opens hphase => simp [hclosed] at hphase
  | falls hphase => exact absurd hclosed hphase

/-! ### Every course -/

theorem limited_of_reaches {p : PushSettings} (hp : 1 ≤ p.maxRetry) {s₀ s : Course}
    (h₀ : s₀.channel.Limited p) (h : Reaches s₀ s) : s.channel.Limited p := by
  induction h with
  | refl => exact h₀
  | step e _ hs ih =>
    obtain ⟨r, hshift, hbefore, hchannel, _⟩ := step_spec hs
    rw [hchannel]
    exact hshift.limited hp (hbefore ▸ ih)

theorem accounted_of_reaches {s₀ s : Course} (h₀ : s₀.Accounted) (h : Reaches s₀ s) :
    s.Accounted := by
  induction h with
  | refl => exact h₀
  | step e _ hs ih => exact ih.step hs

theorem accounted_opened (p : PushSettings) : (opened p).Accounted := ⟨rfl, rfl, rfl, rfl⟩

/-- A downgraded channel stays spent, whatever happens to it. -/
theorem spent_of_reaches {p : PushSettings} (hp : 1 ≤ p.maxRetry) {s s' : Course}
    (hlimited : s.channel.Limited p) (hdown : s.channel.downgraded = true) (h : Reaches s s') :
    Spent s'.channel ∧ attempts s'.history = attempts s.history := by
  induction h with
  | refl => exact ⟨spent_of_downgraded hlimited hdown, rfl⟩
  | @step s₁ s₂ e hreach hs ih =>
    obtain ⟨r, hshift, hbefore, hchannel, hhistory⟩ := step_spec hs
    -- The limit is carried along, as it is what rules out that a cycle runs.
    have hlimited₁ : r.before.Limited p := hbefore ▸ limited_of_reaches hp hlimited hreach
    obtain ⟨hdown₂, hnone⟩ := hshift.quiet hlimited₁ (hbefore ▸ ih.1.downgraded)
    have hlimited₂ := hshift.limited hp hlimited₁
    constructor
    · rw [hchannel]
      exact spent_of_downgraded hlimited₂ hdown₂
    · rw [hhistory, attempts_concat, hnone]
      exact ih.2

/-- What holds of a push channel at every point of its course. -/
structure Bounded (p : PushSettings) (s : Course) : Prop where
  /-- The retry count is what has failed or was lost since the last opening. -/
  counted : s.channel.retryCount = failures s.history
  retryCount_le : s.channel.retryCount ≤ p.maxRetry
  downgraded_iff : s.channel.downgraded = true ↔ s.channel.retryCount = p.maxRetry
  /-- Of the cycles that were started all have ended, but for the one that runs. -/
  cycles : s.history.countP Record.begins =
    s.history.countP Record.ends + s.channel.isRunning.toNat
  /-- Of the attempts that were begun all are over, but for the one under way. -/
  attempts : attempts s.history =
    s.history.countP Record.settles + s.channel.isConnecting.toNat
  /-- Of the connections that were opened all are closed, but for the open one. -/
  connections : s.history.countP Record.opens =
    s.history.countP Record.closes + s.channel.isOpen.toNat
  /-- At most one attempt is under way or one connection open. -/
  single : Course.attempts s.history + s.history.countP Record.opens ≤
    s.history.countP Record.settles + s.history.countP Record.closes + 1
  closed : s.channel.isRunning = false → s.channel.phase = .closed
  /-- The downgrade is for good. -/
  final : s.channel.downgraded = true → ∀ s', Reaches s s' →
    Spent s'.channel ∧ Course.attempts s'.history = Course.attempts s.history

/-- No channel connects and is open at once. -/
theorem isConnecting_add_isOpen_le (c : Channel) :
    c.isConnecting.toNat + c.isOpen.toNat ≤ 1 := by
  cases hphase : c.phase <;> simp [Channel.isConnecting, Channel.isOpen_eq, hphase]

/-- Reconnecting is bounded by the limit of the settings, whatever the calls, the
    outcomes of the attempts, the peer and the passing of time. -/
theorem bounded_of_reaches {p : PushSettings} (hp : 1 ≤ p.maxRetry) {s : Course}
    (h : Reaches (opened p) s) : s.Bounded p := by
  have hlimited := limited_of_reaches hp (Channel.limited_ofSettings hp) h
  obtain ⟨hcounted, hcycles, hattempts, hconnections⟩ :=
    accounted_of_reaches (accounted_opened p) h
  exact {
    counted := hcounted
    retryCount_le := hlimited.retryCount_le
    downgraded_iff := hlimited.downgraded_iff
    cycles := hcycles
    attempts := hattempts
    connections := hconnections
    single := by
      have hone := isConnecting_add_isOpen_le s.channel
      omega
    closed := Channel.phase_of_not_isRunning
    final := fun hdown s' hlater => spent_of_reaches hp hlimited hdown hlater }

/-- Settings that allow two failures in a row. -/
def twice : PushSettings := { url := { scheme := "ws", path := .segments [] }, maxRetry := 2 }

/-- A connection is lost and the next attempt fails, which uses up two retries; then
    the channel is told to connect again. -/
def exhausted : List Event :=
  [.connect, .subscribe "task", .turn, .attempted (.ok ()), .turn, .received .closed, .turn,
    .elapsed 3000, .turn, .attempted (.error .timeout), .connect]

/-- That channel is spent, and stays so. -/
theorem bounded_exhausted : 1 ≤ twice.maxRetry ∧ ∃ s, play exhausted (opened twice) = some s ∧
    s.channel.downgraded = true ∧ failures s.history = 2 ∧ s.Bounded twice := by
  have hlimit : 1 ≤ twice.maxRetry := by decide
  have hplayed : (play exhausted (opened twice)).any fun s =>
      s.channel.downgraded && failures s.history == 2 := by decide
  obtain ⟨s, hs, hholds⟩ := (Option.any_eq_true ..).mp hplayed
  obtain ⟨hdown, hfailures⟩ := Bool.and_eq_true_iff.mp hholds
  exact ⟨hlimit, s, hs, hdown, beq_iff_eq.mp hfailures,
    bounded_of_reaches hlimit (reaches_of_play hs)⟩

end Course

end TaskTracking.Push
