import TaskTracking.Proofs.Course
import TaskTracking.Proofs.Selection

/-! # Transitions of a push channel

  Every event of a course is one of a few transitions of its channel. `Transition`
  lists them, each with what it needs and all that it changes, and
  `transition_of_record?` says that there are no others. A law of courses takes
  from there what it has to know of an event, and unfolds no turn of the cycle.
-/

namespace TaskTracking.Push

/-! ### The open connection -/

namespace Channel

/-- The open connection. -/
def link? (c : Channel) : Option Link :=
  match c.cycle with
  | .connected link => some link
  | _ => none

theorem link?_eq_some_iff {c : Channel} {link : Link} :
    c.link? = some link ↔ c.cycle = .connected link := by
  unfold link?
  cases c.cycle with
  | connected link' => simp
  | _ => simp

theorem link?_of_cycle {c : Channel} {link : Link} (h : c.cycle = .connected link) :
    c.link? = some link := link?_eq_some_iff.mpr h

theorem onLink_of_link? {c : Channel} {link : Link} (h : c.link? = some link) (f : Link → Link) :
    c.onLink f = { c with cycle := .connected (f link) } := by
  unfold onLink
  rw [link?_eq_some_iff.mp h]

theorem onLink_of_none {c : Channel} (h : c.link? = none) (f : Link → Link) : c.onLink f = c := by
  unfold onLink
  split
  · next link hcycle =>
    rw [link?_of_cycle hcycle] at h
    cases h
  · rfl

@[simp] theorem link?_onLink (c : Channel) (f : Link → Link) :
    (c.onLink f).link? = c.link?.map f := by
  cases hlink : c.link? with
  | none => rw [onLink_of_none hlink, hlink, Option.map_none]
  | some link =>
    rw [onLink_of_link? hlink]
    rfl

/-- A subscription is recorded, and told over the open connection. -/
theorem subscribe_eq (c : Channel) (taskId : String) :
    (c.subscribe taskId).1 = ({ c with active := some taskId } : Channel).onLink fun link =>
      { link with outgoing := link.outgoing ++ [subscribeFrame taskId] } := by
  unfold subscribe onLink
  dsimp only
  split <;> rfl

/-- A call of `connect` starts a cycle exactly if there is none and can be one. -/
theorem connect_eq (c : Channel) :
    c.connect = if c.isRunning || c.downgraded || c.shut then (c, false)
      else ({ c with cycle := .starting }, true) := by
  unfold connect isRunning
  cases c.cycle with
  | absent => rw [Bool.false_or]
  | _ => rw [Bool.true_or, Bool.true_or, if_pos rfl]

theorem cycle_of_not_isRunning {c : Channel} (h : c.isRunning = false) : c.cycle = .absent := by
  unfold isRunning at h
  split at h
  · assumption
  · cases h

theorem cycle_of_connecting {c : Channel} (h : c.phase = .connecting) :
    c.cycle = .connecting := by
  unfold phase at h
  split at h <;> first | assumption | cases h

end Channel

namespace Course

/-! ### What an event can do -/

/-- What an event of a course did to its channel. -/
inductive Transition (s : Course) (r : Record) : Prop
  | starts (hevent : r.event = .connect) (hanswer : r.answer = some true) (hacts : r.acts = [])
      (hcycle : r.before.cycle = .absent) (hgood : r.before.downgraded = false)
      (hgo : r.before.shut = false) (hafter : r.after = { r.before with cycle := .starting })
  /-- There is a cycle already, or there can be none any more. -/
  | refuses (hevent : r.event = .connect) (hanswer : r.answer = some false) (hacts : r.acts = [])
      (hafter : r.after = r.before)
  | subscribes (taskId : String) (hevent : r.event = .subscribe taskId) (hacts : r.acts = [])
      (hafter : r.after = ({ r.before with active := some taskId } : Channel).onLink fun link =>
        { link with outgoing := link.outgoing ++ [Channel.subscribeFrame taskId] })
  | unsubscribes (hevent : r.event = .unsubscribe) (hacts : r.acts = [])
      (hafter : r.after = { r.before with active := none })
  | shuts (hevent : r.event = .shutdown) (hacts : r.acts = [])
      (hafter : r.after = { r.before with shut := true })
  | passes (duration : Nat) (hevent : r.event = .elapsed duration) (hacts : r.acts = [])
      (hafter : r.after = r.before)
  | receives (incoming : Incoming) (hevent : r.event = .received incoming) (hacts : r.acts = [])
      (hafter : r.after =
        r.before.onLink fun link => { link with incoming := link.incoming ++ [incoming] })
  | deafens (hevent : r.event = .deafened) (hacts : r.acts = [])
      (hafter : r.after = r.before.onLink fun link => { link with deaf := true })
  /-- The cycle begins its first attempt, or its next one as the wait is over. -/
  | tries (hevent : r.event = .turn) (hacts : r.acts = [.attempt]) (hgo : r.before.shut = false)
      (hcycle : r.before.cycle = .starting ∨ ∃ wake ≤ s.now, r.before.cycle = .waiting wake)
      (hafter : r.after = ({ r.before with cycle := .connecting } : Channel).touch)
  | opens (hevent : r.event = .attempted (.ok ())) (hacts : r.acts = [])
      (hgo : r.before.shut = false) (hcycle : r.before.cycle = .connecting)
      (hafter : r.after = ({ r.before with
        cycle := .connected {
          number := s.accepted
          outgoing := (r.before.active.map Channel.subscribeFrame).toList }
        retryCount := 0 } : Channel).touch)
  | fails (failure : TransportFailure) (hevent : r.event = .attempted (.error failure))
      (hacts : r.acts = []) (hgo : r.before.shut = false) (hcycle : r.before.cycle = .connecting)
      (hafter : r.after = r.before.fall s.now)
  | writes (link : Link) (frame : String) (rest : List String) (hevent : r.event = .turn)
      (hcycle : r.before.cycle = .connected link) (houtgoing : link.outgoing = frame :: rest)
      (hacts : r.acts = [.write link.number frame])
      (hafter : r.after = { r.before with cycle := .connected { link with outgoing := rest } })
  /-- A text frame is taken from the open connection. -/
  | takes (link : Link) (frame : String) (rest : List Incoming) (hevent : r.event = .turn)
      (hcycle : r.before.cycle = .connected link) (houtgoing : link.outgoing = [])
      (hincoming : link.incoming = .text frame :: rest) (hacts : r.acts = r.before.dispatch frame)
      (hafter : r.after = { r.before with cycle := .connected { link with incoming := rest } })
  /-- The open connection is lost. -/
  | loses (link : Link) (hevent : r.event = .turn) (hacts : r.acts = [])
      (hgo : r.before.shut = false) (hcycle : r.before.cycle = .connected link)
      (hafter : r.after = r.before.fall s.now)
  /-- The cycle finds the channel shut down. -/
  | stops (version : Nat) (hevent : r.event = .turn ∨ ∃ result, r.event = .attempted result)
      (hacts : r.acts = []) (hshut : r.before.shut = true) (hrunning : r.before.isRunning = true)
      (hafter : r.after = { r.before with cycle := .absent, version })

section Events

variable {s : Course} {c : Channel}

theorem transition_connect (s : Course) (c : Channel) :
    Transition s {
      event := .connect, before := c, after := c.connect.1, answer := some c.connect.2 } := by
  by_cases hno : c.isRunning || c.downgraded || c.shut
  · have hsame : c.connect = (c, false) := by rw [Channel.connect_eq, if_pos hno]
    rw [hsame]
    exact .refuses rfl rfl rfl rfl
  · have hnew : c.connect = ({ c with cycle := .starting }, true) := by
      rw [Channel.connect_eq, if_neg hno]
    simp only [Bool.or_eq_true, not_or, Bool.not_eq_true] at hno
    obtain ⟨⟨hidle, hgood⟩, hgo⟩ := hno
    rw [hnew]
    exact .starts rfl rfl rfl (Channel.cycle_of_not_isRunning hidle) hgood hgo rfl

/-- A cycle between two attempts begins the next one, unless the channel was shut down. -/
theorem transition_attempt (hrunning : c.isRunning = true)
    (hcycle : c.cycle = .starting ∨ ∃ wake ≤ s.now, c.cycle = .waiting wake) :
    Transition s { event := .turn, before := c, after := c.attempt.1, acts := c.attempt.2 } := by
  by_cases hshut : c.shut
  · have hend : c.attempt = (c.finish.touch.touch, []) := if_pos hshut
    rw [hend]
    exact .stops _ (.inl rfl) rfl hshut hrunning rfl
  · have htry : c.attempt = ({ c with cycle := .connecting }.touch, [.attempt]) := if_neg hshut
    rw [htry]
    exact .tries rfl rfl (Bool.eq_false_iff.mpr hshut) hcycle rfl

/-- What is done with an open connection depends on what waits to be sent and what has come in. -/
theorem transition_pump {link : Link} (hgo : c.shut = false) (hcycle : c.cycle = .connected link)
    (hready : c.ready s.now = true) :
    Transition s {
      event := .turn, before := c
      after := (c.pump s.now link).1, acts := (c.pump s.now link).2 } := by
  unfold Channel.pump
  split
  · next _ frame rest houtgoing =>
    split
    · exact .loses link rfl rfl hgo hcycle rfl
    · exact .writes link frame rest rfl hcycle houtgoing rfl rfl
  · next frame rest houtgoing hincoming =>
    exact .takes link frame rest rfl hcycle houtgoing hincoming rfl rfl
  · exact .loses link rfl rfl hgo hcycle rfl
  · exact .loses link rfl rfl hgo hcycle rfl
  · next houtgoing hincoming =>
    -- A turn would have nothing to do.
    simp [Channel.ready, hcycle, hgo, houtgoing, hincoming] at hready

theorem transition_run (hready : c.ready s.now = true) :
    Transition s {
      event := .turn, before := c, after := (c.run s.now).1, acts := (c.run s.now).2 } := by
  cases hcycle : c.cycle with
  | absent => simp [Channel.ready, hcycle] at hready
  | starting =>
    have hrun : c.run s.now = c.attempt := by rw [Channel.run, hcycle]
    rw [hrun]
    exact transition_attempt (by simp [Channel.isRunning, hcycle]) (.inl hcycle)
  | connecting =>
    have hshut : c.shut = true := by simpa [Channel.ready, hcycle] using hready
    have hrun : c.run s.now = (c.finish.touch, []) := by
      rw [Channel.run, hcycle]
      exact if_pos hshut
    rw [hrun]
    exact .stops _ (.inl rfl) rfl hshut (by simp [Channel.isRunning, hcycle]) rfl
  | connected link =>
    by_cases hshut : c.shut
    · have hrun : c.run s.now = (c.finish.touch, []) := by
        rw [Channel.run, hcycle]
        exact if_pos hshut
      rw [hrun]
      exact .stops _ (.inl rfl) rfl hshut (by simp [Channel.isRunning, hcycle]) rfl
    · have hrun : c.run s.now = c.pump s.now link := by
        rw [Channel.run, hcycle]
        exact if_neg hshut
      rw [hrun]
      exact transition_pump (Bool.eq_false_iff.mpr hshut) hcycle hready
  -- The wait ends when its time has come, or at once when the channel is shut down.
  | waiting wake =>
    have hrunning : c.isRunning = true := by simp [Channel.isRunning, hcycle]
    by_cases hshut : c.shut
    · have hrun : c.run s.now = (c.finish, []) := by
        rw [Channel.run, hcycle]
        exact if_pos hshut
      rw [hrun]
      exact .stops _ (.inl rfl) rfl hshut hrunning rfl
    · have hdue : wake ≤ s.now := by simpa [Channel.ready, hcycle, hshut] using hready
      have hrun : c.run s.now = c.attempt := by
        rw [Channel.run, hcycle]
        exact (if_neg hshut).trans (if_pos hdue)
      rw [hrun]
      exact transition_attempt hrunning (.inr ⟨wake, hdue, hcycle⟩)

theorem transition_attempted {result : Except TransportFailure Unit}
    (hphase : c.phase = .connecting) :
    Transition s {
      event := .attempted result, before := c
      after := c.attempted s.now (result.map fun _ => s.accepted) } := by
  have hcycle := Channel.cycle_of_connecting hphase
  by_cases hshut : c.shut
  · -- What an attempt comes to after the shutdown is not looked at.
    have hend : c.attempted s.now (result.map fun _ => s.accepted) = c.finish.touch := by
      unfold Channel.attempted
      rw [hcycle]
      exact if_pos hshut
    rw [hend]
    exact .stops _ (.inr ⟨result, rfl⟩) rfl hshut (by simp [Channel.isRunning, hcycle]) rfl
  · have hgo : c.shut = false := Bool.eq_false_iff.mpr hshut
    unfold Channel.attempted
    rw [hcycle]
    dsimp only
    rw [if_neg hshut]
    cases result with
    | ok u => exact .opens rfl rfl hgo hcycle rfl
    | error failure => exact .fails failure rfl rfl hgo hcycle rfl

end Events

/-- Whatever an event does is a transition. -/
theorem transition_of_record? {s : Course} {e : Event} {r : Record} (h : s.record? e = some r) :
    Transition s r := by
  cases e with
  | connect =>
    obtain rfl := Option.some.inj h
    exact transition_connect s _
  | subscribe taskId =>
    obtain rfl := Option.some.inj h
    exact .subscribes taskId rfl rfl (Channel.subscribe_eq _ taskId)
  | turn =>
    obtain ⟨hready, hr⟩ := Option.ite_none_right_eq_some.mp h
    obtain rfl := Option.some.inj hr
    exact transition_run hready
  | attempted result =>
    obtain ⟨hphase, hr⟩ := Option.ite_none_right_eq_some.mp h
    obtain rfl := Option.some.inj hr
    exact transition_attempted hphase
  | unsubscribe =>
    obtain rfl := Option.some.inj h
    exact .unsubscribes rfl rfl rfl
  | shutdown =>
    obtain rfl := Option.some.inj h
    exact .shuts rfl rfl rfl
  | received incoming =>
    obtain rfl := Option.some.inj h
    exact .receives incoming rfl rfl rfl
  | deafened =>
    obtain rfl := Option.some.inj h
    exact .deafens rfl rfl rfl
  | elapsed duration =>
    obtain rfl := Option.some.inj h
    exact .passes duration rfl rfl rfl

/-! ### The events of a course -/

/-- Every event happens to the channel as it is. -/
theorem before_of_record? {s : Course} {e : Event} {r : Record} (h : s.record? e = some r) :
    r.event = e ∧ r.before = s.channel := by
  cases e with
  | turn | attempted =>
    obtain ⟨_, hr⟩ := Option.ite_none_right_eq_some.mp h
    exact Option.some.inj hr ▸ ⟨rfl, rfl⟩
  | _ => exact Option.some.inj h ▸ ⟨rfl, rfl⟩

/-- The course `s` becomes `s'` by the event that `r` notes. -/
structure Continues (s : Course) (r : Record) (s' : Course) : Prop where
  transition : Transition s r
  before : r.before = s.channel
  channel : s'.channel = r.after
  now : s'.now = r.event.pass s.now
  accepted : s'.accepted = r.event.accept s.accepted
  history : s'.history = s.history ++ [r]

theorem continues_of_step {s s' : Course} {e : Event} (hs : s.step e = some s') :
    ∃ r, Continues s r s' := by
  obtain ⟨r, hr, rfl⟩ := Option.map_eq_some_iff.mp hs
  obtain ⟨rfl, hbefore⟩ := before_of_record? hr
  exact ⟨r, {
    transition := transition_of_record? hr
    before := hbefore
    channel := rfl
    now := rfl
    accepted := rfl
    history := rfl }⟩

/-- A course keeps its history. -/
theorem history_of_reaches {s₀ s : Course} (h : Reaches s₀ s) :
    ∃ m, s.history = s₀.history ++ m := by
  induction h with
  | refl => exact ⟨[], (List.append_nil _).symm⟩
  | step e _ hs ih =>
    obtain ⟨r, hcontinues⟩ := continues_of_step hs
    obtain ⟨m, hm⟩ := ih
    exact ⟨m ++ [r], by rw [hcontinues.history, hm, List.append_assoc]⟩

/-- Induction on what has come to the history of a course. -/
theorem history_induction {s₀ s : Course} {motive : List Record → Course → Prop}
    (h : Reaches s₀ s) {m : List Record} (hhistory : s.history = s₀.history ++ m)
    (nil : motive [] s₀)
    (concat : ∀ m s r s', Reaches s₀ s → s.history = s₀.history ++ m → Continues s r s' →
      motive m s → motive (m ++ [r]) s') : motive m s := by
  induction h generalizing m with
  | refl =>
    obtain rfl := List.self_eq_append_right.mp hhistory
    exact nil
  | step e hreach hs ih =>
    obtain ⟨r, hcontinues⟩ := continues_of_step hs
    obtain ⟨m, hearlier⟩ := history_of_reaches hreach
    rw [hcontinues.history, hearlier, List.append_assoc] at hhistory
    obtain rfl := List.append_cancel_left hhistory
    exact concat m _ r _ hreach hearlier hcontinues (ih hearlier)

/-- A course has come by every initial part of its history. -/
theorem reaches_of_history {s₀ s : Course} (h : Reaches s₀ s) {m m' : List Record}
    (hsplit : s.history = s₀.history ++ m ++ m') :
    ∃ s₁, Reaches s₀ s₁ ∧ s₁.history = s₀.history ++ m := by
  induction h generalizing m' with
  | refl =>
    rw [List.append_assoc] at hsplit
    obtain ⟨rfl, -⟩ := List.append_eq_nil_iff.mp (List.self_eq_append_right.mp hsplit)
    exact ⟨s₀, .refl, (List.append_nil _).symm⟩
  | @step s s' e hreach hs ih =>
    rcases List.eq_nil_or_concat m' with rfl | ⟨m', r', rfl⟩
    · exact ⟨s', .step e hreach hs, by rw [hsplit, List.append_nil]⟩
    · obtain ⟨r, hcontinues⟩ := continues_of_step hs
      rw [hcontinues.history, List.concat_eq_append, ← List.append_assoc] at hsplit
      exact ih (List.append_inj' hsplit rfl).1

/-- Whatever stands in the history of a course has happened to an earlier one. -/
theorem continues_of_history {s₀ s : Course} (h₀ : s₀.history = []) (h : Reaches s₀ s)
    {l m : List Record} {r : Record} (hsplit : s.history = l ++ r :: m) :
    ∃ s₁ s₂, Reaches s₀ s₁ ∧ s₁.history = l ∧ Continues s₁ r s₂ ∧ Reaches s₂ s := by
  induction h generalizing m with
  | refl =>
    rw [h₀] at hsplit
    have hlength := congrArg List.length hsplit
    simp at hlength
  | @step s₁ s₂ e hreach hs ih =>
    obtain ⟨r', hcontinues⟩ := continues_of_step hs
    rw [hcontinues.history] at hsplit
    -- The event is the last one of the course, or happened before that.
    rcases List.eq_nil_or_concat m with rfl | ⟨m, r'', rfl⟩
    · obtain ⟨hhistory, hlast⟩ := List.append_inj' hsplit rfl
      obtain rfl := List.singleton_inj.mp hlast
      exact ⟨s₁, s₂, hreach, hhistory, hcontinues, .refl⟩
    · have hsplit' : s₁.history ++ [r'] = (l ++ r :: m) ++ [r''] := by simpa using hsplit
      obtain ⟨hhistory, _⟩ := List.append_inj' hsplit' rfl
      obtain ⟨t₁, t₂, ht₁, hl, hr, ht₂⟩ := ih hhistory
      exact ⟨t₁, t₂, ht₁, hl, hr, .step e ht₂ hs⟩

/-- Settings with the usual limit and delay. -/
def usual : PushSettings := { url := { scheme := "ws", path := .segments [] } }

end Course

end TaskTracking.Push
