import TaskTracking.Proofs.Exclusion

/-! # Pages beside each other

  Several pages share one storage and one clock; each has its own task server, push
  endpoint, view and key. A page is then a session whose storage the others write to
  as well. What a page does and what comes of it is the same as without the others
  (`Site.alone_alike`), for two reasons:

  - A turn asks the storage for the page's own key only.
  - What is kept under one key depends on the requests for that key only.
-/

namespace TaskTracking

namespace Scenario.Storage

variable {key : String} {σ σ' σ'' : Storage}

/-- The storages fail alike and keep the same under the key. -/
structure Agrees (key : String) (σ σ' : Storage) : Prop where
  faults : σ'.faults = σ.faults
  found : σ'.entries.get? key = σ.entries.get? key

theorem Agrees.refl (key : String) (σ : Storage) : Agrees key σ σ := ⟨rfl, rfl⟩

theorem Agrees.symm (h : Agrees key σ σ') : Agrees key σ' σ := ⟨h.faults.symm, h.found.symm⟩

theorem Agrees.trans (h : Agrees key σ σ') (h' : Agrees key σ' σ'') : Agrees key σ σ'' :=
  ⟨h'.faults.trans h.faults, h'.found.trans h.found⟩

/-- A request for another key changes nothing for this one. -/
theorem agrees_answer_ne (σ : Storage) {request : Store.Request} (h : request.key ≠ key) :
    Agrees key σ (σ.answer request).2 := by
  unfold answer
  split
  · exact .refl key σ
  · exact ⟨rfl, σ.entries.get?_answer_ne h⟩

/-- Storages that agree on a key answer a request for it alike, and agree afterwards. -/
theorem Agrees.answer {request : Store.Request} (h : Agrees request.key σ σ') :
    (σ'.answer request).1 = (σ.answer request).1 ∧
      Agrees request.key (σ.answer request).2 (σ'.answer request).2 := by
  obtain ⟨hanswer, hfound⟩ := Store.Entries.answer_eq_of_get? h.found
  unfold Storage.answer
  rw [h.faults]
  split
  · exact ⟨rfl, h⟩
  · exact ⟨congrArg Except.ok hanswer, rfl, hfound⟩

end Scenario.Storage

/-! ### A turn keeps to the page's key -/

/-- Whatever a job waits for in the storage is under the key of its page. -/
theorem Settling.key_of_ask {identity : Store.Identity} {stage : Settling}
    {request : Store.Request} (h : stage.ask? identity = some (.store request)) :
    request.key = identity.key := by
  cases stage with
  | locking => cases h
  | reading | clearing =>
    cases h
    rfl

theorem Call.key_of_ask {identity : Store.Identity} {d : Call} {request : Store.Request}
    (h : d.ask? identity = some (.store request)) : request.key = identity.key := by
  cases d with
  | settling stage goal => exact Settling.key_of_ask h
  | loading | forgetting | saving | erasing =>
    cases h
    rfl
  | _ => cases h

theorem Worker.key_of_ask {identity : Store.Identity} {w : Worker} {request : Store.Request}
    (h : w.ask? identity = some (.store request)) : request.key = identity.key := by
  cases w with
  | settling stage => exact Settling.key_of_ask h
  | _ => cases h

/-- A request to the storage among outputs is about that key. -/
def KeepsTo (key : String) (outputs : List Output) : Prop :=
  ∀ job request, Output.ask job (.store request) ∈ outputs → request.key = key

theorem keepsTo_nil (key : String) : KeepsTo key [] :=
  fun _ _ hmem => absurd hmem List.not_mem_nil

theorem keepsTo_of_channels {key : String} {outputs : List Output}
    (h : ∀ o ∈ outputs, Session.isOfChannels o = true) : KeepsTo key outputs := by
  intro job request hmem
  have hchannel := h _ hmem
  cases job <;> cases hchannel

/-- A turn that ends with an ask. -/
theorem keepsTo_asking {key : String} (calls : List ViewCall) (job : Job) {ask : Option Ask}
    (hask : ∀ request, ask = some (.store request) → request.key = key) :
    KeepsTo key (calls.map .view ++ Tracker.asking job ask) := by
  intro job' request hmem
  rcases List.mem_append.mp hmem with hview | hask'
  · obtain ⟨_, _, heq⟩ := List.mem_map.mp hview
    cases heq
  · cases ask with
    | none => cases hask'
    | some ask' =>
      cases List.mem_singleton.mp hask'
      exact hask request rfl

namespace Session

variable {s s' : Session} {e : Event}

theorem keepsTo_afterCall {key : String} (k : Nat) {t : Tracker} (hkey : t.identity.key = key)
    (calls : List ViewCall) (turn : Turn) :
    KeepsTo key (Tracker.afterCall k (t, calls, turn)).2 := by
  subst hkey
  cases turn with
  | waiting d => exact keepsTo_asking calls (.call k) fun _ hask => Call.key_of_ask hask
  | «over» result =>
    intro job request hmem
    rcases List.mem_append.mp hmem with hview | hreturned
    · obtain ⟨_, _, heq⟩ := List.mem_map.mp hview
      cases heq
    · cases List.mem_singleton.mp hreturned

/-- What an event does, with the storage left out: `turn` comes of it in every session
    that differs in the storage at most, and keeps to the page's key. -/
structure Acts (s : Session) (e : Event) (b : Session) (turn : Tracker × List Output) :
    Prop where
  storage : b.storage = s.storage
  identity : turn.1.identity = s.tracker.identity
  keeps : KeepsTo s.tracker.identity.key turn.2
  step : ∀ σ, ({ s with storage := σ } : Session).step e =
    some (({ b with storage := σ } : Session).after e turn)

/-- An event that does not touch the storage itself. -/
def Event.isOwn : Event → Bool
  | .elapsed _ | .disturbed _ => false
  | _ => true

theorem acts_of_run {job : Job} {turn : Tracker × List Output}
    (h : s.tracker.run s.now job = some turn) :
    turn.1.identity = s.tracker.identity ∧ KeepsTo s.tracker.identity.key turn.2 := by
  cases job with
  | call k =>
    obtain ⟨d, ⟨t, calls, next⟩, _, hrun, rfl⟩ := Tracker.run_call h
    have hid := (Tracker.callTurn_of_runCall hrun).keeps.identity
    refine ⟨?_, keepsTo_afterCall k (congrArg _ hid) calls next⟩
    cases next <;> exact hid
  | worker =>
    obtain ⟨⟨t, calls⟩, hrun, rfl⟩ := Option.map_eq_some_iff.mp h
    have hid := (Tracker.workerTurn_of_runWorker hrun).keeps.1
    exact ⟨hid, keepsTo_asking calls .worker fun request hask =>
      (Worker.key_of_ask hask).trans (congrArg _ hid)⟩
  | watcher k =>
    obtain ⟨_, _, _, rfl⟩ := Tracker.run_watcher_iff.mp h
    exact ⟨rfl, keepsTo_nil _⟩
  | cycle =>
    obtain ⟨c, _, _, rfl⟩ := Tracker.run_cycle_iff.mp h
    exact ⟨rfl, keepsTo_of_channels (isOfChannels_afterPush s.tracker _ (c.run s.now).2)⟩
  | loop i =>
    obtain ⟨_, _, _, rfl⟩ := Tracker.run_loop_iff.mp h
    exact ⟨rfl, keepsTo_nil _⟩
  | request i =>
    obtain ⟨_, _, _, rfl⟩ := Tracker.run_request_iff.mp h
    exact ⟨rfl, keepsTo_of_channels (isOfChannels_asking_status i _)⟩

theorem acts_of_reply {job : Job} {reply : Reply} {turn : Tracker × List Output}
    (h : s.tracker.reply s.now job reply = some turn) :
    turn.1.identity = s.tracker.identity ∧ KeepsTo s.tracker.identity.key turn.2 := by
  cases job with
  | call k =>
    obtain ⟨d, ⟨t, calls, next⟩, _, hreply, rfl⟩ := Tracker.reply_call h
    have hid := (Tracker.callTurn_of_replyCall hreply).keeps.identity
    refine ⟨?_, keepsTo_afterCall k (congrArg _ hid) calls next⟩
    cases next <;> exact hid
  | worker =>
    obtain ⟨⟨t, calls⟩, hreply, rfl⟩ := Option.map_eq_some_iff.mp h
    have hid : t.identity = s.tracker.identity := by
      cases reply with
      | store answer => exact (Tracker.keeps_replyWorker hreply).1
      | _ => simp [Tracker.replyWorker] at hreply
    exact ⟨hid, keepsTo_asking calls .worker fun request hask =>
      (Worker.key_of_ask hask).trans (congrArg _ hid)⟩
  | cycle =>
    cases reply with
    | connected result =>
      obtain ⟨_, _, _, rfl⟩ := Tracker.reply_connected_iff.mp h
      exact ⟨rfl, keepsTo_nil _⟩
    | _ => cases h
  | request i =>
    cases reply with
    | status result =>
      obtain ⟨_, _, _, rfl⟩ := Tracker.reply_status_iff.mp h
      exact ⟨rfl, keepsTo_nil _⟩
    | _ => cases h
  | _ => cases h

/-- Every event of a page's own acts so. -/
theorem acts_of_step (hown : e.isOwn = true) (hstep : s.step e = some s') :
    ∃ b turn, s.Acts e b turn ∧ s' = b.after e turn := by
  -- An event reads the tracker, the clock and the answers, none of which the storage is part of.
  cases e with
  | turn job =>
    obtain ⟨turn, hrun, rfl⟩ := Option.map_eq_some_iff.mp hstep
    obtain ⟨hid, hkeeps⟩ := acts_of_run hrun
    exact ⟨s.forget job, turn, ⟨rfl, hid, hkeeps, fun σ => congrArg (Option.map _) hrun⟩, rfl⟩
  | stored job =>
    obtain ⟨answer, hanswer, hstep'⟩ := Option.bind_eq_some_iff.mp hstep
    obtain ⟨turn, hreply, rfl⟩ := Option.map_eq_some_iff.mp hstep'
    obtain ⟨hid, hkeeps⟩ := acts_of_reply hreply
    refine ⟨s.forget job, turn, ⟨rfl, hid, hkeeps, fun σ => ?_⟩, rfl⟩
    show (s.answers.lookup job).bind _ = _
    rw [hanswer]
    exact congrArg (Option.map _) hreply
  | answered job reply =>
    obtain ⟨hservers, hstep'⟩ := Option.ite_none_right_eq_some.mp hstep
    obtain ⟨turn, hreply, rfl⟩ := Option.map_eq_some_iff.mp hstep'
    obtain ⟨hid, hkeeps⟩ := acts_of_reply hreply
    refine ⟨s.forget job, turn, ⟨rfl, hid, hkeeps, fun σ => ?_⟩, rfl⟩
    show (if reply.isServers = true then _ else none) = _
    rw [if_pos hservers]
    exact congrArg (Option.map _) hreply
  | connected result =>
    cases result with
    | ok =>
      obtain ⟨turn, hreply, rfl⟩ := Option.map_eq_some_iff.mp hstep
      obtain ⟨hid, hkeeps⟩ := acts_of_reply hreply
      exact ⟨{ s with accepted := s.accepted + 1 }, turn,
        ⟨rfl, hid, hkeeps, fun σ => congrArg (Option.map _) hreply⟩, rfl⟩
    | error failure =>
      obtain ⟨turn, hreply, rfl⟩ := Option.map_eq_some_iff.mp hstep
      obtain ⟨hid, hkeeps⟩ := acts_of_reply hreply
      exact ⟨s, turn, ⟨rfl, hid, hkeeps, fun σ => congrArg (Option.map _) hreply⟩, rfl⟩
  | called k d =>
    obtain ⟨hfree, heq⟩ := Option.ite_none_right_eq_some.mp hstep
    cases heq
    exact ⟨s, (s.tracker.call k d, []), ⟨rfl, rfl, keepsTo_nil _, fun σ => if_pos hfree⟩, rfl⟩
  | left =>
    cases hstep
    have hid := (Tracker.leave_spec s.tracker).1
    exact ⟨s.forget .worker, (s.tracker.leave, []), ⟨rfl, hid, keepsTo_nil _, fun σ => rfl⟩, rfl⟩
  | received incoming =>
    cases hstep
    exact ⟨s, _, ⟨rfl, rfl, keepsTo_nil _, fun σ => rfl⟩, rfl⟩
  | deafened =>
    cases hstep
    exact ⟨s, _, ⟨rfl, rfl, keepsTo_nil _, fun σ => rfl⟩, rfl⟩
  | _ => cases hown

/-! ### Sessions that differ in what others keep -/

section Storage

variable {key : String} {σ : Scenario.Storage}

/-- Outputs leave every other key alone. -/
theorem agrees_foldl_ne {key' : String} (hne : key' ≠ key) {outputs : List Output}
    (hkeeps : KeepsTo key outputs) (s : Session) :
    s.storage.Agrees key' (outputs.foldl perform s).storage := by
  induction outputs generalizing s with
  | nil => exact .refl key' s.storage
  | cons o outputs ih =>
    have hrest : KeepsTo key outputs := fun job request hmem =>
      hkeeps job request (List.mem_cons_of_mem o hmem)
    have hfirst : s.storage.Agrees key' (s.perform o).storage := by
      unfold perform
      split
      · next job request =>
        have hkey : request.key = key := hkeeps job request List.mem_cons_self
        exact s.storage.agrees_answer_ne (fun heq => hne (heq.symm.trans hkey))
      · exact .refl key' s.storage
    rw [List.foldl_cons]
    exact hfirst.trans (ih hrest (s.perform o))

/-- Outputs have the same effect over a storage that agrees on their key. -/
theorem Agrees.foldl {outputs : List Output} (hkeeps : KeepsTo key outputs) {s : Session}
    (h : s.storage.Agrees key σ) :
    ∃ σ', outputs.foldl perform { s with storage := σ } =
        { outputs.foldl perform s with storage := σ' } ∧
      (outputs.foldl perform s).storage.Agrees key σ' := by
  induction outputs generalizing s σ with
  | nil => exact ⟨σ, rfl, h⟩
  | cons o outputs ih =>
    have hrest : KeepsTo key outputs := fun job request hmem =>
      hkeeps job request (List.mem_cons_of_mem o hmem)
    have hfirst : ∃ σ', ({ s with storage := σ } : Session).perform o =
        { s.perform o with storage := σ' } ∧ (s.perform o).storage.Agrees key σ' := by
      unfold perform
      split
      · next job request =>
        have hkey : request.key = key := hkeeps job request List.mem_cons_self
        subst hkey
        obtain ⟨hanswer, hagrees⟩ := h.answer
        refine ⟨(σ.answer request).2, ?_, hagrees⟩
        show ({ s with
          storage := (σ.answer request).2
          answers := s.answers ++ [(job, (σ.answer request).1)] } : Session) = _
        rw [hanswer]
      · exact ⟨σ, rfl, h⟩
    obtain ⟨σ₁, hσ₁, hagrees⟩ := hfirst
    rw [List.foldl_cons, List.foldl_cons, hσ₁]
    exact ih hrest hagrees

/-- An event of a page's own can happen as well over a storage that agrees on the
    page's key, and does the same. -/
theorem step_of_agrees (hown : e.isOwn = true)
    (h : s.storage.Agrees s.tracker.identity.key σ) (hstep : s.step e = some s') :
    s'.tracker.identity = s.tracker.identity ∧
      ∃ σ', ({ s with storage := σ } : Session).step e = some { s' with storage := σ' } ∧
        s'.storage.Agrees s.tracker.identity.key σ' := by
  obtain ⟨b, turn, hacts, rfl⟩ := acts_of_step hown hstep
  refine ⟨?_, ?_⟩
  · rw [after_tracker]
    exact hacts.identity
  · have hnote : (b.note e turn).storage.Agrees s.tracker.identity.key σ := by
      rw [show (b.note e turn).storage = s.storage from hacts.storage]
      exact h
    obtain ⟨σ', hfold, hagrees⟩ := Agrees.foldl hacts.keeps hnote
    exact ⟨σ', (hacts.step σ).trans (congrArg some hfold), hagrees⟩

/-- It leaves what the others keep as it is. -/
theorem agrees_of_step (hown : e.isOwn = true) (hstep : s.step e = some s') {key' : String}
    (hne : key' ≠ s.tracker.identity.key) : s.storage.Agrees key' s'.storage := by
  obtain ⟨b, turn, hacts, rfl⟩ := acts_of_step hown hstep
  have hagrees := agrees_foldl_ne hne hacts.keeps (b.note e turn)
  rw [show (b.note e turn).storage = s.storage from hacts.storage] at hagrees
  exact hagrees

end Storage

/-- The page is the same in both sessions: its tracker, with lifecycle and display; its
    history, with what it showed and returned; and the task id that it has stored. -/
structure SamePage (s t : Session) : Prop where
  now : t.now = s.now
  tracker : t.tracker = s.tracker
  history : t.history = s.history
  stored : t.stored = s.stored
  /-- The same can happen next. -/
  next : ∀ e, (t.step e).isSome = (s.step e).isSome

/-- A page cannot tell two storages apart that agree on its key. -/
theorem samePage_of_agrees {σ : Scenario.Storage}
    (h : s.storage.Agrees s.tracker.identity.key σ) :
    s.SamePage { s with storage := σ } := by
  refine ⟨rfl, rfl, rfl, congrArg Store.Identity.taskId? h.found, fun e => ?_⟩
  by_cases hown : e.isOwn = true
  · rw [Bool.eq_iff_iff, Option.isSome_iff_exists, Option.isSome_iff_exists]
    constructor
    · rintro ⟨t', ht⟩
      obtain ⟨_, σ', hs, _⟩ := step_of_agrees (σ := s.storage) hown h.symm ht
      exact ⟨_, hs⟩
    · rintro ⟨s', hs⟩
      obtain ⟨_, σ', ht, _⟩ := step_of_agrees hown h hs
      exact ⟨_, ht⟩
  · cases e with
    | elapsed | disturbed => rfl
    | _ => exact absurd rfl hown

/-- The session after time has passed. -/
def elapse (s : Session) (duration : Nat) : Session :=
  { s with now := s.now + duration }.after (.elapsed duration) (s.tracker, [])

end Session

/-! ### Pages over one storage -/

/-- Pages beside each other. Each has the storage that all of them use. -/
abbrev Site (ι : Type) := ι → Session

namespace Site

variable {ι : Type} [DecidableEq ι]

/-- Something that happens to one page, or time that passes for all. -/
inductive Event (ι : Type) where
  | page (i : ι) (event : Session.Event)
  | elapsed (duration : Nat)

/-- Whether page `i` is there when it happens. -/
def Event.concerns (i : ι) : Event ι → Bool
  | .page j _ => j = i
  | .elapsed _ => true

/-- The pages after page `i` has become `p`; what it has stored is there for all. -/
def put (s : Site ι) (i : ι) (p : Session) : Site ι :=
  fun j => if j = i then p else { s j with storage := p.storage }

/-- The pages after an event; none if it cannot happen now. -/
def step (s : Site ι) : Event ι → Option (Site ι)
  | .page i event => if event.isOwn then ((s i).step event).map (s.put i) else none
  | .elapsed duration => some fun j => (s j).elapse duration

/-- Events one after another, as long as they can happen. -/
def play : List (Event ι) → Site ι → Option (Site ι)
  | [], s => some s
  | e :: es, s => (s.step e).bind (play es)

/-- The pages in which these trackers begin, over a storage that works. -/
def opened (trackers : ι → Tracker) (entries : Store.Entries) : Site ι :=
  fun i => Session.opened (trackers i) entries

variable {s s' t : Site ι} {i j : ι} {e : Event ι}

/-- **Invariant.** All pages of `s` use one storage, each a key of its own, and page `i`
    of `t` is that of `s`, but for what the storages keep for others. -/
structure Beside (i : ι) (s t : Site ι) : Prop where
  shared : ∀ j, (s j).storage = (s i).storage
  keys : Function.Injective fun j => (s j).tracker.identity.key
  alike : ∃ σ, t i = { s i with storage := σ } ∧
    (s i).storage.Agrees (s i).tracker.identity.key σ

theorem put_self (s : Site ι) (i : ι) (p : Session) : s.put i p i = p := if_pos rfl

theorem put_ne (s : Site ι) (p : Session) (h : j ≠ i) :
    s.put i p j = { s j with storage := p.storage } := if_neg h

/-- A page that changes keeps the storage shared and the keys apart. -/
theorem shared_put (hkeys : Function.Injective fun j => (s j).tracker.identity.key)
    {p : Session} (hid : p.tracker.identity = (s i).tracker.identity) :
    (∀ j, (s.put i p j).storage = p.storage) ∧
      Function.Injective fun j => (s.put i p j).tracker.identity.key := by
  constructor
  · intro j
    by_cases hj : j = i
    · subst hj
      rw [put_self]
    · rw [put_ne s p hj]
  · have hsame : (fun j => (s.put i p j).tracker.identity.key) =
        fun j => (s j).tracker.identity.key := by
      funext j
      by_cases hj : j = i
      · subst hj
        rw [put_self, hid]
      · rw [put_ne s p hj]
    rw [hsame]
    exact hkeys

/-- What happens to page `i` happens to it in both, and what happens to another page
    cannot be told from page `i`. -/
theorem Beside.step (h : Beside i s t) (hstep : s.step e = some s') :
    if e.concerns i then ∃ t', t.step e = some t' ∧ Beside i s' t' else Beside i s' t := by
  obtain ⟨hshared, hkeys, σ, ht, hagrees⟩ := h
  cases e with
  | elapsed duration =>
    cases hstep
    refine ⟨_, rfl, hshared, hkeys, σ, ?_, hagrees⟩
    show (t i).elapse duration = _
    rw [ht]
    rfl
  | page j event =>
    obtain ⟨hown, hstep'⟩ := Option.ite_none_right_eq_some.mp hstep
    obtain ⟨p, hp, rfl⟩ := Option.map_eq_some_iff.mp hstep'
    by_cases hj : j = i
    · subst hj
      obtain ⟨hid, σ', hσ', hagrees'⟩ := Session.step_of_agrees hown hagrees hp
      obtain ⟨hshared', hkeys'⟩ := shared_put hkeys hid
      have hconcerns : (Event.page j event).concerns j = true := decide_eq_true rfl
      rw [if_pos hconcerns]
      refine ⟨t.put j { p with storage := σ' }, ?_, fun k => ?_, hkeys', σ', ?_, ?_⟩
      · show (if event.isOwn = true then ((t j).step event).map (t.put j) else none) = _
        rw [if_pos hown, ht, hσ']
        rfl
      · rw [hshared', hshared']
      · rw [put_self, put_self]
      · rw [put_self, hid]
        exact hagrees'
    · have hconcerns : ¬ (Event.page j event).concerns i = true := by
        simpa [Event.concerns] using hj
      rw [if_neg hconcerns]
      obtain ⟨hid, _⟩ := Session.step_of_agrees hown (.refl _ _) hp
      obtain ⟨hshared', hkeys'⟩ := shared_put hkeys hid
      -- Page `j` writes under its own key, which is not that of page `i`.
      have hne : (s i).tracker.identity.key ≠ (s j).tracker.identity.key :=
        fun heq => hj (hkeys heq.symm)
      have hkept := Session.agrees_of_step hown hp hne
      rw [hshared j] at hkept
      refine ⟨fun k => ?_, hkeys', σ, ?_, ?_⟩
      · rw [hshared', hshared']
      · rw [put_ne s p (Ne.symm hj), ht]
      · rw [put_ne s p (Ne.symm hj)]
        exact hkept.symm.trans hagrees

theorem Beside.play {es : List (Event ι)} (h : Beside i s t) (hplay : play es s = some s') :
    ∃ t', Site.play (es.filter (·.concerns i)) t = some t' ∧ Beside i s' t' := by
  induction es generalizing s t with
  | nil =>
    cases hplay
    exact ⟨t, rfl, h⟩
  | cons e es ih =>
    obtain ⟨s₁, hs, hrest⟩ := Option.bind_eq_some_iff.mp hplay
    have hnext := h.step hs
    by_cases hconcerns : e.concerns i = true
    · rw [if_pos hconcerns] at hnext
      obtain ⟨t₁, ht, hbeside⟩ := hnext
      obtain ⟨t', ht', hbeside'⟩ := ih hbeside hrest
      refine ⟨t', ?_, hbeside'⟩
      rw [List.filter_cons_of_pos hconcerns, Site.play, ht]
      exact ht'
    · rw [if_neg hconcerns] at hnext
      rw [List.filter_cons_of_neg hconcerns]
      exact ih hnext hrest

/-- **Pages do not interfere.** Whatever pages with different keys do beside each other,
    each page can do alone what it did, and is then the same page. -/
theorem alone_alike {trackers : ι → Tracker}
    (hkeys : Function.Injective fun i => (trackers i).identity.key) {entries : Store.Entries}
    {es : List (Event ι)} (hplay : play es (opened trackers entries) = some s) (i : ι) :
    ∃ t, play (es.filter (·.concerns i)) (opened trackers entries) = some t ∧
      (s i).SamePage (t i) := by
  have hopened : Beside i (opened trackers entries) (opened trackers entries) :=
    ⟨fun _ => rfl, hkeys, _, rfl, .refl _ _⟩
  obtain ⟨t, ht, hbeside⟩ := hopened.play hplay
  obtain ⟨σ, hsame, hagrees⟩ := hbeside.alike
  refine ⟨t, ht, ?_⟩
  rw [hsame]
  exact Session.samePage_of_agrees hagrees

/-- The trackers of a screening page and of an analysis page. -/
def pair (analysis : Bool) : Tracker where
  identity := ⟨(if analysis then Page.ragAnalysis else Page.screening).storageKey⟩
  selector := { push := none, poll := { interval := 2000, threshold := 5 } }

/-- Both pages start a task. The screening page polls its own while the analysis page
    cancels the other, and each goes on between two turns of the other. -/
def crossing : List (Event Bool) :=
  [.page false (.called 0 (.starting .null)), .page true (.called 0 (.starting .null)),
    .page true (.turn (.call 0)), .page false (.turn (.call 0)),
    .page false (.answered (.call 0) (.created (.ok "screening"))),
    .page true (.answered (.call 0) (.created (.ok "analysis"))),
    .page false (.stored (.call 0)), .page true (.stored (.call 0)),
    .page false (.turn (.loop 0)), .elapsed 2000, .page false (.turn (.loop 0)),
    .page true (.called 1 .cancelling), .page false (.turn (.request 0)),
    .page true (.turn (.call 1)),
    .page false (.answered (.request 0) (.status (.ok { status := .running }))),
    .page true (.stored (.call 1)), .page false (.turn .worker), .page false (.stored .worker),
    .page true (.answered (.call 1) (.cancelled (.ok true)))]

/-- The screening page is as it would be alone, though the other has removed its own id. -/
theorem alone_alike_crossing : Function.Injective (fun i => (pair i).identity.key) ∧
    ∃ s t, play crossing (opened pair {}) = some s ∧ (s true).stored = none ∧
      play (crossing.filter (·.concerns false)) (opened pair {}) = some t ∧
      (t false).stored = some "screening" ∧ (t false).tracker.display.status = some .running ∧
      (s false).SamePage (t false) := by
  have hkeys : ∀ i j, (pair i).identity.key = (pair j).identity.key → i = j := by decide
  have hplayed : (play crossing (opened pair {})).any fun s =>
      decide ((s true).stored = none ∧ (s false).stored = some "screening" ∧
        (s false).tracker.display.status = some .running) := by decide
  obtain ⟨s, hs, hholds⟩ := (Option.any_eq_true ..).mp hplayed
  obtain ⟨hgone, hstored, hstatus⟩ := of_decide_eq_true hholds
  obtain ⟨t, ht, hsame⟩ := alone_alike hkeys hs false
  exact ⟨hkeys, s, t, hs, hgone, ht, hsame.stored.trans hstored,
    (congrArg (·.display.status) hsame.tracker).trans hstatus, hsame⟩

end Site

end TaskTracking
