import TaskTracking.Proofs.Scanning
import TaskTracking.Proofs.Traffic

/-! # Frames on the connections of a push channel

  The server knows of the active task from the frames that it gets: one for the task
  that is active when a connection opens, and one for every subscription while it is
  open. They lie in a queue that every opening replaces and every close drops.
  `informed_of_reaches` says which frames of them are written, over every course, and
  that the last one is always of the active task.
-/

namespace TaskTracking

/-! ### The frame of a subscription -/

/-- The server reads what the client has written. -/
theorem ClientMessage.decode_encode (m : ClientMessage) :
    ClientMessage.decode m.encode = .ok m := by
  have hreads : Json.Reads m.encode m.toJson := by
    apply Json.reads_compact
    cases m
    simp [ClientMessage.toJson, Json.Value.numbers, Json.Value.fieldNumbers]
  unfold ClientMessage.decode
  rw [hreads]
  cases m
  rfl

namespace Push.Course

/-! ### What the server is told -/

namespace Record

/-- The task of a subscription while the connection of that number is open. -/
def subscribed? (number : Nat) (r : Record) : Option String :=
  match r.event with
  | .subscribe taskId => if r.before.isOn number then some taskId else none
  | _ => none

/-- The task that the server is to be told of on the connection of that number. -/
def announced? (number : Nat) (r : Record) : Option String :=
  if r.opened? = some number then r.before.active else r.subscribed? number

end Record

/-- The tasks to tell the server of on a connection, from its opening on. -/
def tasks (number : Nat) (opening : Record) (later : List Record) : List String :=
  opening.before.active.toList ++ later.filterMap (Record.subscribed? number)

/-- The frames written on a connection, the oldest first. -/
def sent (history : List Record) (number : Nat) : List String :=
  history.flatMap fun r => Channel.onConnection (Channel.written r.acts) number

/-- The way of frames to the server. -/
def outward : Lane String where
  queue := Link.outgoing
  enters number r := ((r.announced? number).map Channel.subscribeFrame).toList
  leaves number r := Channel.onConnection (Channel.written r.acts) number

theorem entered_outward (history : List Record) (number : Nat) :
    outward.entered history number =
      (history.filterMap (Record.announced? number)).map Channel.subscribeFrame := by
  induction history with
  | nil => rfl
  | cons r history ih =>
    have hcons : outward.entered (r :: history) number =
        ((r.announced? number).map Channel.subscribeFrame).toList ++
          outward.entered history number := List.flatMap_cons
    rw [hcons, ih, List.filterMap_cons]
    cases r.announced? number <;> rfl

/-! ### One event -/

variable {s : Course} {r : Record} {number : Nat}

/-- Only openings and subscriptions have something to tell. -/
theorem announced?_eq_none (hopens : r.opens = false)
    (hsubscribe : ∀ taskId, r.event ≠ .subscribe taskId) (number : Nat) :
    r.announced? number = none := by
  have hunopened : r.opened? ≠ some number := by simp [Record.opened?, hopens]
  rw [Record.announced?, if_neg hunopened, Record.subscribed?]
  split
  · next taskId hevent => exact absurd hevent (hsubscribe taskId)
  · rfl

/-- A frame is written on its connection and on no other. -/
theorem onConnection_write (n : Nat) (frame : String) (number : Nat) :
    Channel.onConnection (Channel.written [.write n frame]) number =
      if n = number then [frame] else [] := by
  by_cases h : n = number <;> simp [Channel.onConnection, Channel.written, h]

theorem enters_opening {s : Course} {r : Record} (hopened : r.opened? = some s.accepted)
    (hevent : r.event = .attempted (.ok ())) (number : Nat) :
    outward.enters number r = if s.accepted = number then
      (r.before.active.map Channel.subscribeFrame).toList else [] := by
  show ((r.announced? number).map Channel.subscribeFrame).toList = _
  rw [Record.announced?, hopened, Record.subscribed?, hevent]
  by_cases hnew : s.accepted = number <;> simp [hnew]

theorem enters_subscription {r : Record} {taskId : String} (hevent : r.event = .subscribe taskId)
    (number : Nat) :
    outward.enters number r =
      if r.before.isOn number then [Channel.subscribeFrame taskId] else [] := by
  have hunopened : r.opened? ≠ some number := by simp [Record.opened?, Record.opens, hevent]
  show ((r.announced? number).map Channel.subscribeFrame).toList = _
  rw [Record.announced?, if_neg hunopened, Record.subscribed?, hevent]
  cases r.before.isOn number <;> rfl

/-- Frames queue up and are written in order. -/
theorem conserves_outward : outward.Conserves := by
  intro s r number h
  have henters (hopens : r.opens = false) (hsubscribe : ∀ taskId, r.event ≠ .subscribe taskId) :
      outward.enters number r = [] := by
    show ((r.announced? number).map Channel.subscribeFrame).toList = []
    rw [announced?_eq_none hopens hsubscribe]
    rfl
  have hleaves (hacts : Channel.written r.acts = []) : outward.leaves number r = [] := by
    show Channel.onConnection (Channel.written r.acts) number = []
    rw [hacts]
    rfl
  cases h.handles with
  | opens hevent hacts hopened hbefore _ hcycle =>
    rw [enters_opening hopened hevent, hleaves (by rw [hacts]; rfl)]
    exact .begins outward number hbefore hcycle
  | tells taskId hevent hacts _ hlink =>
    rw [enters_subscription hevent, hleaves (by rw [hacts]; rfl)]
    exact .joins outward _ number _ hlink (fun _ => rfl) (fun _ => rfl)
  | writes link frame rest hevent hacts hcycle houtgoing hafter =>
    have hcycle' : r.after.cycle = .connected { link with outgoing := rest } := by rw [hafter]
    have hwrite : outward.leaves number r = if link.number = number then [frame] else [] := by
      show Channel.onConnection (Channel.written r.acts) number = _
      rw [hacts, onConnection_write]
    rw [henters (by simp [Record.opens, hevent]) (by simp [hevent]), hwrite]
    exact .leads outward _ number [frame] hcycle hcycle' rfl houtgoing
  -- No other event has to do with frames to the server.
  | takes link frame rest hevent hacts hcycle hincoming hafter =>
    have hcycle' : r.after.cycle = .connected { link with incoming := rest } := by rw [hafter]
    have hflow := Flow.leads outward (number = s.accepted) number [] hcycle hcycle' rfl rfl
    rw [ite_self] at hflow
    rw [henters (by simp [Record.opens, hevent]) (by simp [hevent]),
      hleaves (by rw [hacts, Channel.written_dispatch])]
    exact hflow
  | receives _ hevent hacts _ hlink =>
    rw [henters (by simp [Record.opens, hevent]) (by simp [hevent]), hleaves (by rw [hacts]; rfl)]
    exact .passes outward _ number hlink (fun _ => rfl) (fun _ => rfl)
  | ignores hopens hsubscribe _ hacts _ hlink =>
    rw [henters hopens hsubscribe, hleaves (by rcases hacts with h | h <;> rw [h] <;> rfl)]
    rcases hlink with hnone | ⟨deaf, hsame⟩
    · exact .breaks outward _ number hnone
    · exact .passes outward _ number hsame (fun _ => rfl) (fun _ => rfl)

/-- What an open connection was last told of is the active task. -/
theorem Handles.announces (h : Handles s r) {link : Link} {taskId : String}
    (hlink : r.after.link? = some link) (hactive : r.after.active = some taskId) :
    r.announced? link.number = some taskId ∨
      r.announced? link.number = none ∧ r.before.active = some taskId ∧
        ∃ link', r.before.link? = some link' ∧ link'.number = link.number := by
  cases h with
  -- Two events announce the task: an opening and a subscription.
  | opens hevent hacts hopened hbefore hactive' hcycle =>
    rw [Channel.link?_of_cycle hcycle] at hlink
    obtain rfl := Option.some.inj hlink
    left
    rw [Record.announced?, if_pos hopened, ← hactive', hactive]
  | tells taskId' hevent hacts hactive' hlink' =>
    rw [hlink'] at hlink
    obtain ⟨link₀, hlink₀, rfl⟩ := Option.map_eq_some_iff.mp hlink
    have hunopened : r.opened? ≠ some link₀.number := by
      simp [Record.opened?, Record.opens, hevent]
    have hon : r.before.isOn link₀.number = true := by simp [Channel.isOn, hlink₀]
    left
    rw [Record.announced?, if_neg hunopened, Record.subscribed?, hevent]
    simp [hon, ← hactive, hactive']
  | receives _ hevent _ hactive' hlink' =>
    rw [hlink'] at hlink
    obtain ⟨link', hbefore, rfl⟩ := Option.map_eq_some_iff.mp hlink
    right
    exact ⟨announced?_eq_none (by simp [Record.opens, hevent]) (by simp [hevent]) _,
      hactive' ▸ hactive, link', hbefore, rfl⟩
  | writes link' _ _ hevent _ hcycle _ hafter | takes link' _ _ hevent _ hcycle _ hafter =>
    rw [hafter] at hlink hactive
    obtain rfl := Option.some.inj hlink
    right
    exact ⟨announced?_eq_none (by simp [Record.opens, hevent]) (by simp [hevent]) _,
      hactive, link', Channel.link?_of_cycle hcycle, rfl⟩
  | ignores hopens hsubscribe _ _ hactive' hlink' =>
    right
    refine ⟨announced?_eq_none hopens hsubscribe _, ?_, ?_⟩
    · rcases hactive' with hsame | hnone
      · exact hsame ▸ hactive
      · rw [hnone] at hactive
        cases hactive
    · rcases hlink' with hnone | ⟨deaf, hsame⟩
      · rw [hnone] at hlink
        cases hlink
      · rw [hsame] at hlink
        obtain ⟨link', hbefore, rfl⟩ := Option.map_eq_some_iff.mp hlink
        exact ⟨link', hbefore, rfl⟩

/-! ### Every course -/

variable {p : PushSettings}

/-- All that a connection is to be told of follows its opening. -/
theorem announced_of_opening (h : Reaches (opened p) s) {l m : List Record} {o : Record}
    (hsplit : s.history = l ++ o :: m) (hopened : o.opened? = some number) :
    s.history.filterMap (Record.announced? number) = tasks number o m := by
  -- Before its opening the connection is still to come.
  have hbefore : l.filterMap (Record.announced? number) = [] := by
    obtain ⟨s₁, s₂, hreach, rfl, hcontinues, -⟩ := continues_of_history rfl h hsplit
    obtain ⟨rfl, -⟩ := hcontinues.transition.handles.opened? hopened
    have hnone := Lane.entered_of_unopened conserves_outward hreach fun hmem =>
      Nat.lt_irrefl _ ((opened?_pairwise hreach).2 _ hmem)
    rw [entered_outward] at hnone
    exact List.map_eq_nil_iff.mp hnone
  -- After it no connection of that number is opened.
  have hafter : m.filterMap (Record.announced? number) =
      m.filterMap (Record.subscribed? number) := by
    have hpairwise := (opened?_pairwise h).1
    rw [hsplit, List.filterMap_append, List.filterMap_cons_some hopened] at hpairwise
    have hlater := (List.pairwise_cons.mp (List.pairwise_append.mp hpairwise).2.1).1
    apply List.filterMap_congr
    intro r hr
    have hother : r.opened? ≠ some number := by
      intro hsame
      exact Nat.lt_irrefl _ (hlater number (List.mem_filterMap.mpr ⟨r, hr, hsame⟩))
    rw [Record.announced?, if_neg hother]
  have hopening : o.announced? number = o.before.active := if_pos hopened
  rw [hsplit, List.filterMap_append, hbefore, List.nil_append, tasks]
  cases hactive : o.before.active with
  | none => rw [List.filterMap_cons_none (hopening.trans hactive), hafter]; rfl
  | some taskId => rw [List.filterMap_cons_some (hopening.trans hactive), hafter]; rfl

/-- The active task is what the open connection has to be told of last. -/
theorem announced_getLast? (h : Reaches (opened p) s) {link : Link} {taskId : String}
    (hlink : s.channel.link? = some link) (hactive : s.channel.active = some taskId) :
    (s.history.filterMap (Record.announced? link.number)).getLast? = some taskId := by
  induction h generalizing link with
  | refl => cases hlink
  | step e _ hs ih =>
    obtain ⟨r, hcontinues⟩ := continues_of_step hs
    rw [hcontinues.channel] at hlink hactive
    rw [hcontinues.history, List.filterMap_append]
    rcases hcontinues.transition.handles.announces hlink hactive with
      htold | ⟨hnone, hsame, link', hlink', hnumber⟩
    · rw [List.filterMap_cons_some htold, List.filterMap_nil, List.getLast?_concat]
    · rw [List.filterMap_cons_none hnone, List.filterMap_nil, List.append_nil, ← hnumber]
      exact ih (hcontinues.before ▸ hlink') (hcontinues.before ▸ hsame)

/-- What the server has been told over the connections of a course. -/
structure Informed (s : Course) : Prop where
  /-- Connections are told apart by their numbers. -/
  ordered : (s.history.filterMap Record.opened?).Pairwise (· < ·)
  /-- Over each one the server is told of its tasks in order, as far as it comes. -/
  initial : ∀ l o m number, s.history = l ++ o :: m → o.opened? = some number →
    sent s.history number <+: (tasks number o m).map Channel.subscribeFrame
  /-- Nothing is written elsewhere. -/
  unopened : ∀ number, number ∉ s.history.filterMap Record.opened? → sent s.history number = []
  /-- Over the open one it is told of all of them, when there is nothing more to do. -/
  complete : ∀ link, s.channel.link? = some link → ∃ l o m, s.history = l ++ o :: m ∧
    o.opened? = some link.number ∧
    sent s.history link.number ++ link.outgoing =
      (tasks link.number o m).map Channel.subscribeFrame ∧
    (s.AtRest →
      sent s.history link.number = (tasks link.number o m).map Channel.subscribeFrame)
  /-- It knows the active task then. -/
  current : ∀ link taskId, s.AtRest → s.channel.link? = some link →
    s.channel.active = some taskId →
    (sent s.history link.number).getLast? = some (Channel.subscribeFrame taskId) ∧
      ClientMessage.decode (Channel.subscribeFrame taskId) = .ok (.subscribe taskId)

/-- The server always knows the active task, however often the connection is lost and
    whenever a task is subscribed to. -/
theorem informed_of_reaches (h : Reaches (opened p) s) : s.Informed := by
  have hpassed (number : Nat) := Lane.passed_of_reaches conserves_outward h number
  -- What waits in the queue of the open connection is all that it was not told yet.
  have hwaiting (link : Link) (hlink : s.channel.link? = some link) :=
    (hpassed link.number).waiting _ (Lane.waiting?_of_link hlink)
  constructor
  · exact (opened?_pairwise h).1
  · intro l o m number hsplit hopened
    have hinitial := (hpassed number).initial
    rw [entered_outward, announced_of_opening h hsplit hopened] at hinitial
    exact hinitial
  · intro number hnumber
    have hinitial := (hpassed number).initial
    rw [Lane.entered_of_unopened conserves_outward h hnumber] at hinitial
    exact List.prefix_nil.mp hinitial
  · intro link hlink
    obtain ⟨o, ho, hopened⟩ := List.mem_filterMap.mp (opened_of_link h hlink)
    obtain ⟨l, m, hsplit⟩ := List.append_of_mem ho
    have hall := hwaiting link hlink
    rw [entered_outward, announced_of_opening h hsplit hopened] at hall
    refine ⟨l, o, m, hsplit, hopened, hall.symm, ?_⟩
    intro hrest
    have hnone : outward.queue link = [] := (hrest.queues hlink).1
    rw [hnone, List.append_nil] at hall
    exact hall.symm
  · intro link taskId hrest hlink hactive
    have hall := hwaiting link hlink
    have hnone : outward.queue link = [] := (hrest.queues hlink).1
    rw [hnone, List.append_nil, entered_outward] at hall
    refine ⟨?_, ClientMessage.decode_encode _⟩
    show (outward.left s.history link.number).getLast? = _
    rw [← hall, List.getLast?_map, announced_getLast? h hlink hactive]
    rfl

/-- Tasks are subscribed to while the channel is closed, open, waiting and connecting. -/
def resubscribed : List Event :=
  [.subscribe "T1", .connect, .turn, .attempted (.ok ()), .subscribe "T2", .turn, .turn,
    .received .closed, .turn, .subscribe "T3", .elapsed 3000, .turn, .subscribe "T4",
    .attempted (.ok ()), .turn]

/-- The server knows of `T4` then, and has never been told of `T3`. -/
theorem informed_resubscribed : ∃ s, play resubscribed (opened usual) = some s ∧
    s.Informed ∧ s.AtRest ∧ s.channel.isOpen ∧ s.channel.active = some "T4" ∧
    sent s.history 0 = ["T1", "T2"].map Channel.subscribeFrame ∧
    sent s.history 1 = ["T4"].map Channel.subscribeFrame := by
  have hplayed : (play resubscribed (opened usual)).isSome := by decide
  have hs := (Option.some_get hplayed).symm
  exact ⟨_, hs, informed_of_reaches (reaches_of_play hs), rfl, rfl, rfl, rfl, rfl⟩

end Push.Course

end TaskTracking
