import TaskTracking.Proofs.Transitions

/-! # Traffic over the connections of a push channel

  A connection has two lanes: frames go out to the server, and what the peer does
  comes in. What enters a lane waits in a queue and leaves it in order; what still
  waits there when the connection ends is lost. `Lane.passed_of_reaches` says so of
  every connection of a course, for any lane that every event conserves.
-/

namespace TaskTracking.Push

/-- Whether the connection of that number is open. -/
def Channel.isOn (c : Channel) (number : Nat) : Bool := c.link?.any (·.number = number)

namespace Course

/-- The number of the connection that an attempt has opened. -/
def Record.opened? (r : Record) : Option Nat :=
  if r.opens then r.after.link?.map (·.number) else none

/-! ### The open connection -/

/-- What an event has to do with the open connection. -/
inductive Handles (s : Course) (r : Record) : Prop
  | opens (hevent : r.event = .attempted (.ok ())) (hacts : r.acts = [])
      (hopened : r.opened? = some s.accepted) (hbefore : r.before.link? = none)
      (hactive : r.after.active = r.before.active)
      (hcycle : r.after.cycle = .connected {
        number := s.accepted
        outgoing := (r.before.active.map Channel.subscribeFrame).toList })
  | tells (taskId : String) (hevent : r.event = .subscribe taskId) (hacts : r.acts = [])
      (hactive : r.after.active = some taskId)
      (hlink : r.after.link? = r.before.link?.map fun link =>
        { link with outgoing := link.outgoing ++ [Channel.subscribeFrame taskId] })
  | receives (incoming : Incoming) (hevent : r.event = .received incoming) (hacts : r.acts = [])
      (hactive : r.after.active = r.before.active)
      (hlink : r.after.link? = r.before.link?.map fun link =>
        { link with incoming := link.incoming ++ [incoming] })
  | writes (link : Link) (frame : String) (rest : List String) (hevent : r.event = .turn)
      (hacts : r.acts = [.write link.number frame]) (hcycle : r.before.cycle = .connected link)
      (houtgoing : link.outgoing = frame :: rest)
      (hafter : r.after = { r.before with cycle := .connected { link with outgoing := rest } })
  | takes (link : Link) (frame : String) (rest : List Incoming) (hevent : r.event = .turn)
      (hacts : r.acts = r.before.dispatch frame) (hcycle : r.before.cycle = .connected link)
      (hincoming : link.incoming = .text frame :: rest)
      (hafter : r.after = { r.before with cycle := .connected { link with incoming := rest } })
  /-- There is none, or it is lost or left alone. -/
  | ignores (hopens : r.opens = false) (hsubscribe : ∀ taskId, r.event ≠ .subscribe taskId)
      (hreceived : ∀ incoming, r.event ≠ .received incoming)
      (hacts : r.acts = [] ∨ r.acts = [.attempt])
      (hactive : r.after.active = r.before.active ∨ r.after.active = none)
      (hlink : r.after.link? = none ∨ ∃ deaf, r.after.link? = r.before.link?.map fun link =>
        { link with deaf := link.deaf || deaf })

theorem link?_fall (c : Channel) (now : Nat) : (c.fall now).link? = none := by
  unfold Channel.fall
  dsimp only
  split <;> rfl

/-- A change of nothing but the hearing of the peer, or not even that. -/
theorem link?_map_deaf (c : Channel) :
    c.link? = c.link?.map fun link => { link with deaf := link.deaf || false } := by
  cases c.link? <;> simp

theorem Transition.handles {s : Course} {r : Record} (h : Transition s r) : Handles s r := by
  cases h with
  | opens hevent hacts hgo hcycle hafter =>
    have hopens : r.opens = true := by simp [Record.opens, hevent, hgo]
    refine .opens hevent hacts ?_ ?_ ?_ ?_
    · rw [Record.opened?, if_pos hopens, hafter]
      rfl
    · simp [Channel.link?, hcycle]
    · rw [hafter]
      rfl
    · rw [hafter]
      rfl
  | subscribes taskId hevent hacts hafter =>
    refine .tells taskId hevent hacts ?_ ?_
    · rw [hafter, Channel.onLink_active]
    · rw [hafter, Channel.link?_onLink]
      rfl
  | receives incoming hevent hacts hafter =>
    refine .receives incoming hevent hacts ?_ ?_
    · rw [hafter, Channel.onLink_active]
    · rw [hafter, Channel.link?_onLink]
  | writes link frame rest hevent hcycle houtgoing hacts hafter =>
    exact .writes link frame rest hevent hacts hcycle houtgoing hafter
  | takes link frame rest hevent hcycle _ hincoming hacts hafter =>
    exact .takes link frame rest hevent hacts hcycle hincoming hafter
  -- What is left opens no connection and touches no lane of one, or loses the connection.
  | deafens hevent hacts hafter =>
    refine .ignores (by simp [Record.opens, hevent]) (by simp [hevent]) (by simp [hevent])
      (.inl hacts) (.inl ?_) (.inr ⟨true, ?_⟩)
    · rw [hafter, Channel.onLink_active]
    · rw [hafter, Channel.link?_onLink]
      simp only [Bool.or_true]
  | refuses hevent _ hacts hafter | passes _ hevent hacts hafter | shuts hevent hacts hafter =>
    refine .ignores (by simp [Record.opens, hevent]) (by simp [hevent]) (by simp [hevent])
      (.inl hacts) (.inl ?_) (.inr ⟨false, ?_⟩)
    · rw [hafter]
    · rw [hafter]
      exact link?_map_deaf _
  | unsubscribes hevent hacts hafter =>
    refine .ignores (by simp [Record.opens, hevent]) (by simp [hevent]) (by simp [hevent])
      (.inl hacts) (.inr ?_) (.inr ⟨false, ?_⟩)
    · rw [hafter]
    · rw [hafter]
      exact link?_map_deaf _
  | starts hevent _ hacts _ _ _ hafter =>
    refine .ignores (by simp [Record.opens, hevent]) (by simp [hevent]) (by simp [hevent])
      (.inl hacts) (.inl ?_) (.inl ?_)
    · rw [hafter]
    · rw [hafter]
      rfl
  | tries hevent hacts _ _ hafter =>
    refine .ignores (by simp [Record.opens, hevent]) (by simp [hevent]) (by simp [hevent])
      (.inr hacts) (.inl ?_) (.inl ?_)
    · rw [hafter]
      rfl
    · rw [hafter]
      rfl
  | fails _ hevent hacts _ _ hafter | loses _ hevent hacts _ _ hafter =>
    refine .ignores (by simp [Record.opens, hevent]) (by simp [hevent]) (by simp [hevent])
      (.inl hacts) (.inl ?_) (.inl ?_)
    · rw [hafter, Channel.fall_active]
    · rw [hafter, link?_fall]
  | stops version hevent hacts hshut hrunning hafter =>
    have hopens : r.opens = false := by
      rcases hevent with hevent | ⟨result, hevent⟩
      · simp [Record.opens, hevent]
      · cases result <;> simp [Record.opens, hevent, hshut]
    refine .ignores hopens ?_ ?_ (.inl hacts) (.inl ?_) (.inl ?_)
    · rcases hevent with hevent | ⟨result, hevent⟩ <;> simp [hevent]
    · rcases hevent with hevent | ⟨result, hevent⟩ <;> simp [hevent]
    · rw [hafter]
    · rw [hafter]
      rfl

variable {α : Type}

/-! ### Lanes -/

/-- One direction of the connections of a course. -/
structure Lane (α : Type) where
  /-- What waits in the lane. -/
  queue : Link → List α
  /-- What an event puts into the lane of the connection of that number. -/
  enters : Nat → Record → List α
  /-- What an event takes out of it. -/
  leaves : Nat → Record → List α

namespace Lane

/-- What waits in the lane of the connection of that number, while it is open. -/
def waiting? (lane : Lane α) (c : Channel) (number : Nat) : Option (List α) :=
  (c.link?.filter (·.number = number)).map lane.queue

/-- What has entered the lane of a connection. -/
def entered (lane : Lane α) (history : List Record) (number : Nat) : List α :=
  history.flatMap (lane.enters number)

/-- What has left the lane of a connection. -/
def left (lane : Lane α) (history : List Record) (number : Nat) : List α :=
  history.flatMap (lane.leaves number)

theorem waiting?_of_link {lane : Lane α} {c : Channel} {link : Link} (h : c.link? = some link) :
    lane.waiting? c link.number = some (lane.queue link) := by
  simp [waiting?, h]

theorem waiting?_eq_some {lane : Lane α} {c : Channel} {number : Nat} {queue : List α}
    (h : lane.waiting? c number = some queue) :
    ∃ link, c.link? = some link ∧ link.number = number ∧ lane.queue link = queue := by
  obtain ⟨link, hlink, hqueue⟩ := Option.map_eq_some_iff.mp h
  obtain ⟨hlink, hnumber⟩ := Option.filter_eq_some_iff.mp hlink
  exact ⟨link, hlink, of_decide_eq_true hnumber, hqueue⟩

end Lane

/-- What can become of a queue; a new one begins with what enters it. -/
inductive Flow (new : Prop) : Option (List α) → Option (List α) → List α → List α → Prop
  | idle : Flow new none none [] []
  | opens (hnew : new) (queue : List α) : Flow new none (some queue) queue []
  | moves {queue queue' entering leaving : List α}
      (hkept : queue ++ entering = leaving ++ queue') :
      Flow new (some queue) (some queue') entering leaving
  | ends (queue : List α) : Flow new (some queue) none [] []

theorem Flow.same (new : Prop) (queue : Option (List α)) : Flow new queue queue [] [] := by
  cases queue with
  | none => exact .idle
  | some queue => exact .moves (List.append_nil queue)

section Carries

variable {new : Prop} {before after : Option (List α)} {entering leaving entered left : List α}

/-- What had entered and not left was waiting, and so it is after the event. -/
theorem Flow.carries (h : Flow new before after entering leaving)
    (hwaiting : ∀ queue, before = some queue → entered = left ++ queue)
    (hinitial : left <+: entered) (hnew : new → entered = []) :
    (∀ queue, after = some queue → entered ++ entering = left ++ leaving ++ queue) ∧
      left ++ leaving <+: entered ++ entering := by
  cases h with
  | idle | ends =>
    refine ⟨nofun, ?_⟩
    rw [List.append_nil, List.append_nil]
    exact hinitial
  | opens hopens =>
    have hnone := hnew hopens
    subst hnone
    obtain rfl := List.prefix_nil.mp hinitial
    refine ⟨?_, List.nil_prefix⟩
    intro queue hqueue
    rw [Option.some.inj hqueue]
    rfl
  | @moves queue queue' _ _ hkept =>
    have hall : entered ++ entering = left ++ leaving ++ queue' := by
      rw [hwaiting queue rfl, List.append_assoc, hkept, List.append_assoc]
    refine ⟨?_, ?_⟩
    · intro queue hqueue
      rw [← Option.some.inj hqueue]
      exact hall
    · rw [hall]
      exact List.prefix_append _ _

/-- Nothing enters a lane that is not there. -/
theorem Flow.entering_eq_nil (h : Flow new before none entering leaving) : entering = [] := by
  cases h <;> rfl

end Carries

/-- Whatever an event does, nothing gets lost from an open connection or changes its place. -/
def Lane.Conserves (lane : Lane α) : Prop :=
  ∀ s r number, Transition s r →
    Flow (number = s.accepted) (lane.waiting? r.before number) (lane.waiting? r.after number)
      (lane.enters number r) (lane.leaves number r)

/-! ### What an event does to a lane -/

section Lanes

variable (lane : Lane α) (new : Prop) {c c' : Channel} {link link' : Link} {f : Link → Link}
  (number : Nat)

theorem Flow.breaks (h : c'.link? = none) :
    Flow new (lane.waiting? c number) (lane.waiting? c' number) [] [] := by
  have hnone : lane.waiting? c' number = none := by simp [Lane.waiting?, h]
  rw [hnone]
  cases lane.waiting? c number with
  | none => exact .idle
  | some queue => exact .ends queue

/-- The first to enter a lane find it new. -/
theorem Flow.begins (h : c.link? = none) (h' : c'.cycle = .connected link) :
    Flow (number = link.number) (lane.waiting? c number) (lane.waiting? c' number)
      (if link.number = number then lane.queue link else []) [] := by
  have hnone : lane.waiting? c number = none := by simp [Lane.waiting?, h]
  rw [hnone]
  by_cases hnumber : link.number = number
  · subst hnumber
    rw [Lane.waiting?_of_link (Channel.link?_of_cycle h'), if_pos rfl]
    exact .opens rfl _
  · have hother : lane.waiting? c' number = none := by
      simp [Lane.waiting?, Channel.link?_of_cycle h', Option.filter, hnumber]
    rw [hother, if_neg hnumber]
    exact .idle

/-- Whatever enters the lane of the open connection queues up behind the others. -/
theorem Flow.joins (entering : List α) (hlink : c'.link? = c.link?.map f)
    (hnumber : ∀ link, (f link).number = link.number)
    (hqueue : ∀ link, lane.queue (f link) = lane.queue link ++ entering) :
    Flow new (lane.waiting? c number) (lane.waiting? c' number)
      (if c.isOn number then entering else []) [] := by
  unfold Lane.waiting? Channel.isOn
  rw [hlink]
  cases c.link? with
  | none => exact .idle
  | some link =>
    by_cases hon : link.number = number
    · simp only [Option.map_some, Option.filter, hnumber, hon, decide_true, if_true, hqueue,
        Option.any_some]
      exact .moves rfl
    · simp only [Option.map_some, Option.filter, hnumber, hon, decide_false, Option.any_some,
        Bool.false_eq_true, if_false, Option.map_none]
      exact .idle

/-- A change of the open connection that leaves the lane alone. -/
theorem Flow.passes (hlink : c'.link? = c.link?.map f)
    (hnumber : ∀ link, (f link).number = link.number)
    (hqueue : ∀ link, lane.queue (f link) = lane.queue link) :
    Flow new (lane.waiting? c number) (lane.waiting? c' number) [] [] := by
  have hflow := Flow.joins lane new number [] hlink hnumber fun link =>
    (hqueue link).trans (List.append_nil _).symm
  rwa [ite_self] at hflow

/-- Whatever leaves a lane was the first there. -/
theorem Flow.leads (leaving : List α) (h : c.cycle = .connected link)
    (h' : c'.cycle = .connected link') (hnumber : link'.number = link.number)
    (hqueue : lane.queue link = leaving ++ lane.queue link') :
    Flow new (lane.waiting? c number) (lane.waiting? c' number) []
      (if link.number = number then leaving else []) := by
  unfold Lane.waiting?
  rw [Channel.link?_of_cycle h, Channel.link?_of_cycle h']
  by_cases hon : link.number = number
  · simp only [Option.map_some, Option.filter, hnumber, hon, decide_true, if_true, hqueue]
    exact .moves (List.append_nil _)
  · simp only [Option.filter, hnumber, hon, decide_false, Bool.false_eq_true, if_false,
      Option.map_none]
    exact .idle

end Lanes

/-! ### Every course -/

/-- Nothing can run. -/
def AtRest (s : Course) : Prop := s.channel.ready s.now = false

instance (s : Course) : Decidable s.AtRest := inferInstanceAs (Decidable (_ = _))

/-- At rest the open connection has nothing to be sent or read. -/
theorem AtRest.queues {s : Course} (h : s.AtRest) {link : Link}
    (hlink : s.channel.link? = some link) : link.outgoing = [] ∧ link.incoming = [] := by
  unfold AtRest Channel.ready at h
  rw [Channel.link?_eq_some_iff.mp hlink] at h
  simp only [Bool.or_eq_false_iff, Bool.not_eq_false'] at h
  exact ⟨List.isEmpty_iff.mp h.1.2, List.isEmpty_iff.mp h.2⟩

theorem accepted_le {s s' : Course} {r : Record} (h : Continues s r s') :
    s.accepted ≤ s'.accepted := by
  rw [h.accepted]
  unfold Event.accept
  split
  · exact Nat.le_succ _
  · exact Nat.le_refl _

/-- An opening is of the next connection. -/
theorem Handles.opened? {s : Course} {r : Record} (h : Handles s r) {number : Nat}
    (hopened : r.opened? = some number) :
    number = s.accepted ∧ r.event = .attempted (.ok ()) := by
  cases h with
  | opens hevent _ hopened' =>
    rw [hopened'] at hopened
    exact ⟨(Option.some.inj hopened).symm, hevent⟩
  | tells _ hevent | receives _ hevent | writes _ _ _ hevent | takes _ _ _ hevent =>
    simp [Record.opened?, Record.opens, hevent] at hopened
  | ignores hopens => simp [Record.opened?, hopens] at hopened

/-- Connections are opened in the order of their numbers. -/
theorem opened?_pairwise {p : PushSettings} {s : Course} (h : Reaches (opened p) s) :
    (s.history.filterMap Record.opened?).Pairwise (· < ·) ∧
      ∀ number ∈ s.history.filterMap Record.opened?, number < s.accepted := by
  induction h with
  | refl => exact ⟨.nil, nofun⟩
  | @step s s' e _ hs ih =>
    obtain ⟨r, hcontinues⟩ := continues_of_step hs
    obtain ⟨hpairwise, hlt⟩ := ih
    have hle := accepted_le hcontinues
    rw [hcontinues.history, List.filterMap_append]
    cases hopened : r.opened? with
    | none =>
      rw [List.filterMap_cons_none hopened, List.filterMap_nil, List.append_nil]
      exact ⟨hpairwise, fun number hnumber => Nat.lt_of_lt_of_le (hlt number hnumber) hle⟩
    | some number =>
      obtain ⟨rfl, hevent⟩ := hcontinues.transition.handles.opened? hopened
      have hnext : s'.accepted = s.accepted + 1 := by rw [hcontinues.accepted, hevent]; rfl
      rw [List.filterMap_cons_some hopened, List.filterMap_nil]
      constructor
      · exact List.pairwise_append.mpr
          ⟨hpairwise, List.pairwise_singleton .., by simpa using hlt⟩
      · intro number hnumber
        rcases List.mem_append.mp hnumber with hold | hnew
        · have hearlier := hlt number hold
          omega
        · have heq := List.mem_singleton.mp hnew
          omega

/-- An open connection was open before the event, or has been opened by it. -/
theorem Handles.link_cases {s : Course} {r : Record} (h : Handles s r) {link : Link}
    (hlink : r.after.link? = some link) :
    (∃ link', r.before.link? = some link' ∧ link'.number = link.number) ∨
      r.event = .attempted (.ok ()) ∧ r.opened? = some link.number ∧ link.number = s.accepted := by
  cases h with
  | opens hevent hacts hopened hbefore hactive hcycle =>
    rw [Channel.link?_of_cycle hcycle] at hlink
    obtain rfl := Option.some.inj hlink
    exact .inr ⟨hevent, hopened, rfl⟩
  | tells _ _ _ _ hafter | receives _ _ _ _ hafter =>
    rw [hafter] at hlink
    obtain ⟨link', hlink', rfl⟩ := Option.map_eq_some_iff.mp hlink
    exact .inl ⟨link', hlink', rfl⟩
  | writes link' _ _ _ _ hcycle _ hafter | takes link' _ _ _ _ hcycle _ hafter =>
    rw [hafter] at hlink
    obtain rfl := Option.some.inj hlink
    exact .inl ⟨link', Channel.link?_of_cycle hcycle, rfl⟩
  | ignores _ _ _ _ _ hafter =>
    rcases hafter with hnone | ⟨deaf, hsame⟩
    · rw [hnone] at hlink
      cases hlink
    · rw [hsame] at hlink
      obtain ⟨link', hlink', rfl⟩ := Option.map_eq_some_iff.mp hlink
      exact .inl ⟨link', hlink', rfl⟩

/-- Whatever connection is open has been opened. -/
theorem opened_of_link {p : PushSettings} {s : Course} (h : Reaches (opened p) s) {link : Link}
    (hlink : s.channel.link? = some link) :
    link.number ∈ s.history.filterMap Record.opened? := by
  induction h generalizing link with
  | refl => cases hlink
  | step e _ hs ih =>
    obtain ⟨r, hcontinues⟩ := continues_of_step hs
    rw [hcontinues.channel] at hlink
    rw [hcontinues.history, List.filterMap_append]
    rcases hcontinues.transition.handles.link_cases hlink with
      ⟨link', hlink', hnumber⟩ | ⟨-, hopened, -⟩
    · have hearlier := ih (hcontinues.before ▸ hlink')
      exact List.mem_append_left _ (hnumber ▸ hearlier)
    · rw [List.filterMap_cons_some hopened]
      exact List.mem_append_right _ List.mem_cons_self

namespace Lane

variable {lane : Lane α} {p : PushSettings} {s s' : Course} {r : Record} {number : Nat}

theorem entered_concat (lane : Lane α) (history : List Record) (r : Record) (number : Nat) :
    lane.entered (history ++ [r]) number = lane.entered history number ++ lane.enters number r := by
  simp [entered]

theorem left_concat (lane : Lane α) (history : List Record) (r : Record) (number : Nat) :
    lane.left (history ++ [r]) number = lane.left history number ++ lane.leaves number r := by
  simp [left]

/-- Nothing enters the lane of a connection that was not opened. -/
theorem entered_of_unopened (hlane : lane.Conserves) (h : Reaches (opened p) s)
    (hnumber : number ∉ s.history.filterMap Record.opened?) :
    lane.entered s.history number = [] := by
  induction h with
  | refl => rfl
  | @step s s' e hreach hs ih =>
    obtain ⟨r, hcontinues⟩ := continues_of_step hs
    have hflow := hlane s r number hcontinues.transition
    have habsent : lane.waiting? r.after number = none := by
      cases hthere : lane.waiting? r.after number with
      | none => rfl
      | some queue =>
        rw [← hcontinues.channel] at hthere
        obtain ⟨link, hlink, rfl, -⟩ := waiting?_eq_some hthere
        exact absurd (opened_of_link (.step e hreach hs) hlink) hnumber
    rw [habsent] at hflow
    rw [hcontinues.history, List.filterMap_append] at hnumber
    have hearlier := ih fun hmem => hnumber (List.mem_append_left _ hmem)
    rw [hcontinues.history, entered_concat, hearlier, hflow.entering_eq_nil]
    rfl

/-- What has become of all that entered the lane of a connection. -/
structure Passed (lane : Lane α) (s : Course) (number : Nat) : Prop where
  /-- It has left the lane in order, but for what waits. -/
  waiting : ∀ queue, lane.waiting? s.channel number = some queue →
    lane.entered s.history number = lane.left s.history number ++ queue
  initial : lane.left s.history number <+: lane.entered s.history number

theorem Passed.step (hlane : lane.Conserves) (h : lane.Passed s number)
    (hnew : number = s.accepted → lane.entered s.history number = []) (hs : Continues s r s') :
    lane.Passed s' number := by
  have hflow := hlane s r number hs.transition
  rw [hs.before, ← hs.channel] at hflow
  obtain ⟨hwaiting, hinitial⟩ := hflow.carries h.waiting h.initial hnew
  constructor
  · rw [hs.history, entered_concat, left_concat]
    exact hwaiting
  · rw [hs.history, entered_concat, left_concat]
    exact hinitial

theorem passed_of_reaches (hlane : lane.Conserves) (h : Reaches (opened p) s) (number : Nat) :
    lane.Passed s number := by
  induction h with
  | refl =>
    refine ⟨?_, List.prefix_refl _⟩
    intro queue hqueue
    cases hqueue
  | @step s s' e hreach hs ih =>
    obtain ⟨r, hcontinues⟩ := continues_of_step hs
    refine ih.step hlane ?_ hcontinues
    intro hnew
    apply entered_of_unopened hlane hreach
    intro hmem
    have hlt := (opened?_pairwise hreach).2 number hmem
    omega

end Lane

end Course

end TaskTracking.Push
