import TaskTracking.Proofs.Traffic

/-! # Dispatch of the frames from the server

  Frames are taken from the open connection one after another, in the order of their
  arrival, between the other things that the channel does. `filtered_of_reaches` says
  which of them are handed on, as what, and that a frame does nothing else: whatever
  the frames are, the channel is as it was but for the frame.
-/

namespace TaskTracking.Push

/-- The snapshot that a frame brings of a task, which goes by the id of the envelope. -/
def updateOf (active : Option String) (frame : String) : Option Snapshot :=
  match ServerMessage.decode frame with
  | .ok (.taskUpdate taskId data) =>
    if active = some taskId then some { data with id := taskId } else none
  | _ => none

/-- A frame is handed on exactly if it updates the active task. -/
theorem Channel.dispatch_eq (c : Channel) (frame : String) :
    c.dispatch frame =
      ((updateOf c.active frame).map fun s => Act.deliver (.snapshot .push s)).toList := by
  unfold dispatch updateOf
  cases ServerMessage.decode frame with
  | error fault => rfl
  | ok message =>
    cases message with
    | other => rfl
    | taskUpdate taskId data =>
      by_cases hactive : c.active = some taskId
      · simp [ServerMessage.taskUpdate?, hactive, Snapshot.withId]
      · simp [ServerMessage.taskUpdate?, hactive]

namespace Course

namespace Record

/-- What comes in over the connection of that number. -/
def received? (number : Nat) (r : Record) : Option Incoming :=
  match r.event with
  | .received incoming => if r.before.isOn number then some incoming else none
  | _ => none

/-- The frame that an event takes from the open connection, with its number: the first
    one there, if it is gone afterwards. -/
def taken? (r : Record) : Option (Nat × String) :=
  match r.before.link?, r.after.link? with
  | some link, some link' =>
    match link.incoming with
    | .text frame :: rest => if link'.incoming = rest then some (link.number, frame) else none
    | _ => none
  | _, _ => none

/-- The frame that an event takes from the connection of that number. -/
def takenOn? (number : Nat) (r : Record) : Option String :=
  (r.taken?.filter (·.1 = number)).map Prod.snd

/-- The update that an event takes from the open connection: that of the task which is
    active then. -/
def update? (r : Record) : Option Snapshot := r.taken?.bind fun t => updateOf r.before.active t.2

end Record

/-- All that comes in over a connection. -/
def received (history : List Record) (number : Nat) : List Incoming :=
  history.filterMap (Record.received? number)

/-- The frames taken from a connection. -/
def taken (history : List Record) (number : Nat) : List String :=
  history.filterMap (Record.takenOn? number)

/-- What is handed on in a course. -/
def handedOn (history : List Record) : List Delivery :=
  history.flatMap fun r => Channel.deliveries r.acts

/-- The way of frames from the server. -/
def inward : Lane Incoming where
  queue := Link.incoming
  enters number r := (r.received? number).toList
  leaves number r := ((r.takenOn? number).map .text).toList

/-! ### One event -/

variable {s : Course} {r : Record} {number : Nat}

/-- No frame is taken from a connection that has as much to read as before. -/
theorem taken?_of_link {f : Link → Link} (hlink : r.after.link? = r.before.link?.map f)
    (hincoming : ∀ link, link.incoming.length ≤ (f link).incoming.length) : r.taken? = none := by
  unfold Record.taken?
  rw [hlink]
  cases r.before.link? with
  | none => rfl
  | some link =>
    have hlength := hincoming link
    dsimp only [Option.map_some]
    split
    · next frame rest hfirst =>
      have hother : (f link).incoming ≠ rest := by
        intro hrest
        rw [hfirst, hrest, List.length_cons] at hlength
        omega
      rw [if_neg hother]
    · rfl

theorem taken?_of_takes {link : Link} {frame : String} {rest : List Incoming}
    (hcycle : r.before.cycle = .connected link) (hincoming : link.incoming = .text frame :: rest)
    (hafter : r.after = { r.before with cycle := .connected { link with incoming := rest } }) :
    r.taken? = some (link.number, frame) := by
  have hlink' : r.after.link? = some { link with incoming := rest } := by rw [hafter]; rfl
  unfold Record.taken?
  rw [Channel.link?_of_cycle hcycle, hlink']
  dsimp only
  rw [hincoming]
  exact if_pos rfl

theorem taken?_of_ignores (hlink : r.after.link? = none ∨ ∃ deaf,
    r.after.link? = r.before.link?.map fun link => { link with deaf := link.deaf || deaf }) :
    r.taken? = none := by
  rcases hlink with hnone | ⟨deaf, hsame⟩
  · unfold Record.taken?
    rw [hnone]
    cases r.before.link? <;> rfl
  · exact taken?_of_link hsame fun _ => Nat.le_refl _

/-- A frame that is sent takes nothing from what is to be read. -/
theorem link?_of_writes {link : Link} {frame : String} {rest : List String}
    (hcycle : r.before.cycle = .connected link) (houtgoing : link.outgoing = frame :: rest)
    (hafter : r.after = { r.before with cycle := .connected { link with outgoing := rest } }) :
    r.after.link? =
      r.before.link?.map fun link => { link with outgoing := link.outgoing.tail } := by
  rw [Channel.link?_of_cycle hcycle, hafter, Option.map_some, houtgoing]
  rfl

/-- Only an event that takes a frame hands something on, and it does nothing else. -/
theorem Handles.taken_cases (h : Handles s r) :
    r.taken? = none ∧ Channel.deliveries r.acts = [] ∨
      ∃ number frame, r.taken? = some (number, frame) ∧ r.acts = r.before.dispatch frame ∧
        r.after = r.before.onLink fun link => { link with incoming := link.incoming.tail } := by
  cases h with
  | takes link frame rest _ hacts hcycle hincoming hafter =>
    refine .inr ⟨link.number, frame, taken?_of_takes hcycle hincoming hafter, hacts, ?_⟩
    rw [hafter, Channel.onLink_of_link? (Channel.link?_of_cycle hcycle), hincoming]
    rfl
  | opens _ hacts _ hbefore =>
    exact .inl ⟨by rw [Record.taken?, hbefore], by rw [hacts]; rfl⟩
  | tells _ _ hacts _ hlink =>
    exact .inl ⟨taken?_of_link hlink fun _ => Nat.le_refl _, by rw [hacts]; rfl⟩
  | receives _ _ hacts _ hlink =>
    exact .inl ⟨taken?_of_link hlink fun _ => by simp, by rw [hacts]; rfl⟩
  | writes _ _ _ _ hacts hcycle houtgoing hafter =>
    have hlink := link?_of_writes hcycle houtgoing hafter
    exact .inl ⟨taken?_of_link hlink fun _ => Nat.le_refl _, by rw [hacts]; rfl⟩
  | ignores _ _ _ hacts _ hlink =>
    exact .inl ⟨taken?_of_ignores hlink, by rcases hacts with h | h <;> rw [h] <;> rfl⟩

/-- What an event hands on is the update that it takes. -/
theorem Handles.deliveries (h : Handles s r) :
    Channel.deliveries r.acts = (r.update?.map (.snapshot .push)).toList := by
  rcases h.taken_cases with ⟨htaken, hnone⟩ | ⟨number, frame, htaken, hacts, -⟩
  · rw [Record.update?, htaken, hnone]
    rfl
  · rw [Record.update?, htaken, hacts, Channel.dispatch_eq]
    show _ = ((updateOf r.before.active frame).map _).toList
    cases updateOf r.before.active frame <;> rfl

/-- Whatever comes in queues up, and is taken in order. -/
theorem conserves_inward : inward.Conserves := by
  intro s r number h
  have henters (hreceived : ∀ incoming, r.event ≠ .received incoming) :
      inward.enters number r = [] := by
    show (r.received? number).toList = []
    unfold Record.received?
    split
    · next incoming hevent => exact absurd hevent (hreceived incoming)
    · rfl
  have hleaves (htaken : r.taken? = none) : inward.leaves number r = [] := by
    show ((r.takenOn? number).map Incoming.text).toList = []
    rw [Record.takenOn?, htaken]
    rfl
  cases h.handles with
  | receives incoming hevent _ _ hlink =>
    have hentry : inward.enters number r = if r.before.isOn number then [incoming] else [] := by
      show (r.received? number).toList = _
      rw [Record.received?, hevent]
      cases r.before.isOn number <;> rfl
    rw [hentry, hleaves (taken?_of_link hlink fun _ => by simp)]
    exact .joins inward _ number _ hlink (fun _ => rfl) (fun _ => rfl)
  | takes link frame rest hevent _ hcycle hincoming hafter =>
    have hcycle' : r.after.cycle = .connected { link with incoming := rest } := by rw [hafter]
    have hexit : inward.leaves number r = if link.number = number then [.text frame] else [] := by
      show ((r.takenOn? number).map Incoming.text).toList = _
      rw [Record.takenOn?, taken?_of_takes hcycle hincoming hafter]
      by_cases hon : link.number = number <;> simp [Option.filter, hon]
    rw [henters (by simp [hevent]), hexit]
    exact .leads inward _ number [.text frame] hcycle hcycle' rfl hincoming
  | opens hevent _ _ hbefore _ hcycle =>
    -- There is nothing to read on a new connection.
    have hflow := Flow.begins inward number hbefore hcycle
    have hempty : inward.queue { number := s.accepted
                                 outgoing := (r.before.active.map Channel.subscribeFrame).toList }
        = [] := rfl
    rw [hempty, ite_self] at hflow
    rw [henters (by simp [hevent]), hleaves (by rw [Record.taken?, hbefore])]
    exact hflow
  -- No other event has to do with what comes in.
  | tells _ hevent _ _ hlink =>
    rw [henters (by simp [hevent]), hleaves (taken?_of_link hlink fun _ => Nat.le_refl _)]
    exact .passes inward _ number hlink (fun _ => rfl) (fun _ => rfl)
  | writes _ _ _ hevent _ hcycle houtgoing hafter =>
    have hlink := link?_of_writes hcycle houtgoing hafter
    rw [henters (by simp [hevent]), hleaves (taken?_of_link hlink fun _ => Nat.le_refl _)]
    exact .passes inward _ number hlink (fun _ => rfl) (fun _ => rfl)
  | ignores _ _ hreceived _ _ hlink =>
    rw [henters hreceived, hleaves (taken?_of_ignores hlink)]
    rcases hlink with hnone | ⟨deaf, hsame⟩
    · exact .breaks inward _ number hnone
    · exact .passes inward _ number hsame (fun _ => rfl) (fun _ => rfl)

/-! ### Every course -/

variable {p : PushSettings}

theorem entered_inward (history : List Record) (number : Nat) :
    inward.entered history number = received history number :=
  (List.filterMap_eq_flatMap_toList ..).symm

theorem left_inward (history : List Record) (number : Nat) :
    inward.left history number = (taken history number).map .text := by
  unfold taken
  rw [List.map_filterMap]
  exact (List.filterMap_eq_flatMap_toList ..).symm

/-- What is handed on are the updates taken, in their order. -/
theorem handedOn_of_reaches (h : Reaches (opened p) s) :
    handedOn s.history = (s.history.filterMap Record.update?).map (.snapshot .push) := by
  induction h with
  | refl => rfl
  | step e _ hs ih =>
    obtain ⟨r, hcontinues⟩ := continues_of_step hs
    have hnew := hcontinues.transition.handles.deliveries
    rw [hcontinues.history, List.filterMap_append, List.map_append, ← ih]
    unfold handedOn
    rw [List.flatMap_append, List.flatMap_cons, List.flatMap_nil, List.append_nil, hnew]
    cases hupdate : r.update? with
    | none => rw [List.filterMap_cons_none hupdate]; rfl
    | some update => rw [List.filterMap_cons_some hupdate]; rfl

/-- What becomes of the frames from the server in a course. -/
structure Filtered (s : Course) : Prop where
  /-- From each connection frames are taken as they have come in, as far as it gets. -/
  initial : ∀ number, (taken s.history number).map .text <+: received s.history number
  /-- From the open one all of them are taken, when there is nothing more to do. -/
  complete : ∀ link, s.channel.link? = some link →
    (taken s.history link.number).map .text ++ link.incoming = received s.history link.number ∧
      (s.AtRest → (taken s.history link.number).map .text = received s.history link.number)
  /-- What is handed on are the updates among them of the task active at the time. -/
  exact : handedOn s.history = (s.history.filterMap Record.update?).map (.snapshot .push)
  /-- Taking a frame does nothing else, whatever the frame. -/
  harmless : ∀ r ∈ s.history, ∀ number frame, r.taken? = some (number, frame) →
    r.acts = ((updateOf r.before.active frame).map fun update =>
      .deliver (.snapshot .push update)).toList ∧
    r.after = r.before.onLink fun link => { link with incoming := link.incoming.tail }

/-- Frames from the server are filtered exactly and in order, over all connections,
    whatever the frames and whenever the active task changes. -/
theorem filtered_of_reaches (h : Reaches (opened p) s) : s.Filtered := by
  have hpassed (number : Nat) := Lane.passed_of_reaches conserves_inward h number
  constructor
  · intro number
    have hinitial := (hpassed number).initial
    rw [entered_inward, left_inward] at hinitial
    exact hinitial
  · intro link hlink
    have hall := (hpassed link.number).waiting _ (Lane.waiting?_of_link hlink)
    rw [entered_inward, left_inward] at hall
    refine ⟨hall.symm, ?_⟩
    intro hrest
    have hnone : inward.queue link = [] := (hrest.queues hlink).2
    rw [hnone, List.append_nil] at hall
    exact hall.symm
  · exact handedOn_of_reaches h
  · intro r hr number frame htaken
    obtain ⟨l, m, hsplit⟩ := List.append_of_mem hr
    obtain ⟨s₁, s₂, -, -, hcontinues, -⟩ := continues_of_history rfl h hsplit
    rcases hcontinues.transition.handles.taken_cases with
      ⟨hnone, -⟩ | ⟨number', frame', htaken', hacts, hafter⟩
    · rw [hnone] at htaken
      cases htaken
    · rw [htaken'] at htaken
      obtain ⟨rfl, rfl⟩ := Prod.mk.inj (Option.some.inj htaken)
      exact ⟨hacts.trans (Channel.dispatch_eq _ _), hafter⟩

/-- A frame that updates a task, with a snapshot under some other id. -/
def updateFrame (taskId status : String) : String :=
  "\x7b\"type\":\"task_update\",\"task_id\":\"" ++ taskId ++
    "\",\"data\":\x7b\"id\":\"T0\",\"status\":\"" ++ status ++ "\"\x7d\x7d"

/-- Frames of all kinds come in over two connections, while the active task changes. -/
def updated : List Event :=
  [.subscribe "T1", .connect, .turn, .attempted (.ok ()), .turn,
    .received (.text (updateFrame "T1" "running")), .received (.text "task_update"),
    .received (.text "\x7b\"type\":\"heartbeat\"\x7d"),
    .received (.text (updateFrame "T2" "running")), .turn, .turn, .turn, .turn,
    .subscribe "T2", .received (.text (updateFrame "T2" "completed")), .received .closed,
    .turn, .turn, .turn, .elapsed 3000, .turn, .attempted (.ok ()), .turn,
    .received (.text (updateFrame "T1" "failed")), .received (.text (updateFrame "T2" "failed")),
    .turn, .turn, .unsubscribe, .received (.text (updateFrame "T2" "running")), .turn]

/-- Of six updates and two other frames three are handed on. -/
theorem filtered_updated : ∃ s, play updated (opened usual) = some s ∧ s.Filtered ∧ s.AtRest ∧
    s.channel.isOpen ∧ s.channel.retryCount = 0 ∧
    (taken s.history 0).length = 5 ∧ (taken s.history 1).length = 3 ∧
    (s.history.filterMap Record.update?).map (fun update => (update.id, update.status)) =
      [("T1", .running), ("T2", .completed), ("T2", .failed)] := by
  have hplayed : (play updated (opened usual)).any fun s =>
      s.AtRest ∧ s.channel.isOpen ∧ s.channel.retryCount = 0 ∧
        (taken s.history 0).length = 5 ∧ (taken s.history 1).length = 3 ∧
        (s.history.filterMap Record.update?).map (fun update => (update.id, update.status)) =
          [("T1", .running), ("T2", .completed), ("T2", .failed)] := by decide +kernel
  obtain ⟨s, hs, hholds⟩ := (Option.any_eq_true ..).mp hplayed
  exact ⟨s, hs, filtered_of_reaches (reaches_of_play hs), of_decide_eq_true hholds⟩

end Course

end TaskTracking.Push
