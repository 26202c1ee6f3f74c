import Mathlib.Data.List.Induction
import TaskTracking.Proofs.Shifts

/-! # Metering of a poll channel

  What the loops of a poll channel do is accounted for, in every course:

  - At most one outstanding request can still lead to a delivery.
  - A tick issues one request, or is counted as skipped, and no request is lost.
  - What is delivered came of requests in the order in which these were sent.
  - In a punctual course a loop ticks once every interval, from its start until it
    is cancelled.
-/

namespace TaskTracking.Polling.Course

/-! ### What an event adds to the counters -/

/-- The requests that a loop has counted. -/
def requests (o : Option Loop) : Nat := o.elim 0 (·.stats.requests)

/-- The ticks that a loop has skipped. -/
def skipped (o : Option Loop) : Nat := o.elim 0 (·.stats.skipped)

/-- Whether a loop has issued a request that is not sent yet. -/
def isQueued (o : Option Loop) : Bool := o.any (·.request = some .queued)

/-- Whether a loop has sent a request that is not over yet. -/
def isSent (o : Option Loop) : Bool := o.any (·.request = some .sent)

/-- Every request that a loop issues is counted when it runs, and is then sent or given
    up; and what is sent is under way until it is over. -/
structure Balanced (m : Marks) (before after : Option Loop) : Prop where
  issued : requests before + (isQueued before).toNat + m.issues.toNat =
    requests after + (isQueued after).toNat
  missed : skipped before + m.misses.toNat = skipped after
  counted : requests before + m.asks.toNat + m.forgoes.toNat = requests after
  settled : (isSent before).toNat + m.asks.toNat = (isSent after).toNat + m.settles.toNat

theorem Shift.balanced {r : Record} {i : Nat} (h : Shift r i) :
    Balanced (r.marks i) (r.loopBefore i) (r.loopAfter i) := by
  cases h with
  -- Neither the request nor its count changes.
  | absent hbefore hafter hmarks | starts _ _ hbefore hafter hmarks
  | keeps _ hbefore hafter hmarks | cancels _ hbefore hafter hmarks
  | begins _ hbefore _ _ hafter hmarks | returns _ hbefore _ hafter hmarks
  | misses _ _ hbefore _ _ _ _ hafter hmarks =>
    rw [hbefore, hafter, hmarks]
    exact ⟨rfl, rfl, rfl, rfl⟩
  | issues _ _ hbefore _ _ _ hrequest hafter hmarks | asks _ hbefore _ hrequest hafter hmarks
  | forgoes _ hbefore _ hrequest hafter hmarks | abandons _ hbefore _ hrequest hafter hmarks =>
    rw [hbefore, hafter, hmarks]
    constructor <;> simp [requests, skipped, isQueued, isSent, hrequest]
  | answers l l' hbefore hafter hsent hidle hdue hended hrequests hskipped hcancelled hmarks =>
    rw [hbefore, hafter, hmarks]
    constructor <;> simp [requests, skipped, isQueued, isSent, hsent, hidle, hrequests, hskipped]

/-! ### Accounts of a course -/

/-- The counters of loop `i` are those of the history. -/
structure Tallied (s : Course) (i : Nat) : Prop where
  issued : s.history.countP (·.issues i) =
    requests s.channel.loops[i]? + (isQueued s.channel.loops[i]?).toNat
  missed : s.history.countP (·.misses i) = skipped s.channel.loops[i]?
  counted : s.history.countP (·.asks i) + s.history.countP (·.forgoes i) =
    requests s.channel.loops[i]?
  /-- What is sent is over but for one request at most. -/
  settled : s.history.countP (·.asks i) =
    s.history.countP (·.settles i) + (isSent s.channel.loops[i]?).toNat

theorem countP_concat (mark : Record → Bool) (history : List Record) (r : Record) :
    (history ++ [r]).countP mark = history.countP mark + (mark r).toNat := by
  cases hmark : mark r <;> simp [hmark]

theorem Tallied.step {s s' : Course} {e : Event} {i : Nat} (hpos : 0 < s.channel.interval)
    (h : s.Tallied i) (hs : s.step e = some s') : s'.Tallied i := by
  obtain ⟨r, hr, hchannel, _, hhistory⟩ := step_spec hs
  -- Each account grows by what the event has balanced.
  obtain ⟨hissued, hmissed, hcounted, hsettled⟩ := (shift_of_record? hpos hr i).balanced
  obtain ⟨_, hbefore, _⟩ := before_of_record? hr
  rw [Record.loopBefore, Record.loopAfter, hbefore, ← hchannel] at hissued hmissed hcounted hsettled
  obtain ⟨hissued₀, hmissed₀, hcounted₀, hsettled₀⟩ := h
  simp only [Record.marks] at hissued hmissed hcounted hsettled
  constructor
  · rw [hhistory, countP_concat]
    omega
  · rw [hhistory, countP_concat]
    omega
  · rw [hhistory, countP_concat, countP_concat]
    omega
  · rw [hhistory, countP_concat, countP_concat]
    omega

/-- A tick issues a request or is skipped, and not both. -/
theorem ticks_toNat (r : Record) (i : Nat) :
    (r.ticks i).toNat = (r.issues i).toNat + (r.misses i).toNat := by
  unfold Record.issues Record.misses
  cases hticks : r.ticks i with
  | false => rfl
  | true =>
    cases hbefore : r.loopBefore i with
    | none =>
      unfold Record.ticks at hticks
      rw [hbefore] at hticks
      split at hticks <;> simp at hticks
    | some l => cases hrequest : l.request <;> simp [hrequest]

theorem ticks_eq (r : Record) (i : Nat) : r.ticks i = (r.issues i || r.misses i) := by
  have hsplit := ticks_toNat r i
  have hle := Bool.toNat_le (r.ticks i)
  cases hissues : r.issues i <;> cases hmisses : r.misses i <;> simp_all

theorem countP_ticks (history : List Record) (i : Nat) :
    history.countP (·.ticks i) = history.countP (·.issues i) + history.countP (·.misses i) := by
  induction history using List.reverseRecOn with
  | nil => rfl
  | append_singleton history r ih =>
    rw [countP_concat, countP_concat, countP_concat, ih, ticks_toNat]
    omega

/-- A tick issues one request if none is outstanding, and else is counted as skipped. -/
def Ticked (r : Record) (i : Nat) : Prop :=
  ∃ l l', r.loopBefore i = some l ∧ r.loopAfter i = some l' ∧
    if l.request = none then l'.request = some .queued ∧ l'.stats = l.stats
    else l'.request = l.request ∧ l'.stats = { l.stats with skipped := l.stats.skipped + 1 }

theorem Shift.ticked {r : Record} {i : Nat} (h : Shift r i) (hticks : r.ticks i = true) :
    Ticked r i := by
  rw [ticks_eq] at hticks
  have hmark : (r.marks i).issues = true ∨ (r.marks i).misses = true :=
    (Bool.or_eq_true _ _).mp hticks
  cases h with
  | issues l due hbefore hgo hdue hle hidle hafter hmarks =>
    refine ⟨l, _, hbefore, hafter, ?_⟩
    rw [if_pos hidle]
    exact ⟨rfl, rfl⟩
  | misses l due hbefore hgo hdue hle hbusy hafter hmarks =>
    refine ⟨l, _, hbefore, hafter, ?_⟩
    rw [if_neg hbusy]
    exact ⟨rfl, rfl⟩
  | _ =>
    rename_i hmarks
    rw [hmarks] at hmark
    simp at hmark

/-! ### Deliveries in the order of their requests -/

theorem ledger_concat (history : List Record) (r : Record) :
    ledger (history ++ [r]) = (ledger history).add r := by
  rw [ledger, List.foldl_append]
  rfl

/-- A delivery comes of an answer to a loop that is not cancelled. -/
theorem delivered_of_record? {s : Course} {e : Event} {r : Record} (h : s.record? e = some r) :
    r.delivered = [] ∨ s.receiving = true ∧ ∃ i result l d, e = .answered i result ∧
      s.channel.loops[i]? = some l ∧ l.request = some .sent ∧ l.cancelled = false ∧
      r.delivered = [d] := by
  cases e with
  | answered i result =>
    obtain ⟨hsent, hr⟩ := Option.ite_none_right_eq_some.mp h
    obtain ⟨l, hl, hsent⟩ := (Option.any_eq_true _ _).mp hsent
    have hsent : l.request = some .sent := by simpa using hsent
    obtain rfl := Option.some.inj hr
    cases hreceiving : s.receiving with
    | false => exact .inl rfl
    | true =>
      rw [Channel.answer_eq hl hsent]
      cases hcancelled : l.cancelled with
      | true =>
        left
        exact (Loop.answer_of_cancelled hcancelled _ _ _).2
      | false =>
        by_cases hquiet : (l.answer s.channel.threshold true result).2 = []
        · exact .inl hquiet
        · refine .inr ⟨rfl, i, result, l, ?_⟩
          obtain ⟨d, hd⟩ := Loop.answer_delivers hquiet
          exact ⟨d, rfl, hl, hsent, hcancelled, hd⟩
  | loop | request =>
    obtain ⟨_, hr⟩ := Option.ite_none_right_eq_some.mp h
    exact .inl (Option.some.inj hr ▸ rfl)
  | _ => exact .inl (Option.some.inj h ▸ rfl)

theorem Ledger.add_of_quiet {g : Ledger} {r : Record} (hask : ∀ i, r.asks i = false)
    (hquiet : r.delivered = []) : g.add r = g := by
  unfold Ledger.add
  split
  · next i hevent =>
    have hnone := hask i
    simp only [Record.asks, hevent, decide_true, Bool.true_and] at hnone
    rw [hnone]
    exact if_neg Bool.false_ne_true
  · rw [hquiet, List.map_nil, List.append_nil]
  · rfl

/-- **Invariant.** Whatever a loop that is not cancelled has asked for, it asked for after
    everything that led to a delivery so far. -/
structure Ordered (g : Ledger) (c : Channel) : Prop where
  sorted : g.origins.Pairwise (· < ·)
  asked : ∀ n ∈ g.origins, n < g.asked
  pending : ∀ i l, c.loops[i]? = some l → l.cancelled = false → l.request = some .sent →
    g.last i < g.asked ∧ ∀ n ∈ g.origins, n < g.last i

/-- A request that is under way after an event, and not cancelled, was so before, unless it
    was sent just now. -/
theorem Shift.sent_before {r : Record} {i : Nat} (h : Shift r i) {l' : Loop}
    (hl' : r.loopAfter i = some l') (hgo' : l'.cancelled = false) (hsent' : l'.request = some .sent)
    (hask : r.asks i = false) :
    ∃ l, r.loopBefore i = some l ∧ l.cancelled = false ∧ l.request = some .sent := by
  have hask : (r.marks i).asks = false := hask
  cases h with
  | absent hbefore hafter hmarks => simp [hafter] at hl'
  | asks l hbefore hgo hqueued hafter hmarks => simp [hmarks] at hask
  | answers l l₁ hbefore hafter hsent hidle =>
    obtain rfl := Option.some.inj (hafter.symm.trans hl')
    simp [hidle] at hsent'
  | starts taskId cancelled hbefore hafter =>
    obtain rfl := Option.some.inj (hafter.symm.trans hl')
    simp at hsent'
  | keeps l hbefore hafter | cancels l hbefore hafter | begins l hbefore _ _ hafter
  | returns l hbefore _ hafter | issues l _ hbefore _ _ _ _ hafter
  | misses l _ hbefore _ _ _ _ hafter | forgoes l hbefore _ _ hafter
  | abandons l hbefore _ _ hafter =>
    obtain rfl := Option.some.inj (hafter.symm.trans hl')
    first
    | exact ⟨l, hbefore, hgo', hsent'⟩
    | simp at hgo' hsent'

theorem asks_of_event {r : Record} {i : Nat} (h : r.asks i = true) :
    r.event = .request i ∧ r.asked.isSome = true := by
  unfold Record.asks at h
  split at h
  · next j hevent =>
    obtain ⟨hj, hasked⟩ := (Bool.and_eq_true _ _).mp h
    exact ⟨by rw [hevent, of_decide_eq_true hj], hasked⟩
  · cases h

/-- The requests under way in `c'` are those of `c`, but for one that loop `i` may have
    sent. -/
def OnlySends (i : Option Nat) (c c' : Channel) : Prop :=
  ∀ (j : Nat) (l' : Loop), c'.loops[j]? = some l' → l'.cancelled = false →
    l'.request = some .sent → i ≠ some j →
    ∃ l, c.loops[j]? = some l ∧ l.cancelled = false ∧ l.request = some .sent

/-- A request gets a number of its own, above all others. -/
theorem Ordered.ask {g : Ledger} {c c' : Channel} (h : Ordered g c) {i : Nat}
    (hsends : OnlySends (some i) c c') :
    Ordered { g with asked := g.asked + 1, last := Function.update g.last i g.asked } c' where
  sorted := h.sorted
  asked n hn := Nat.lt_succ_of_lt (h.asked n hn)
  pending j l hl hgo hsent := by
    by_cases hij : j = i
    · subst hij
      simp only [Function.update_self]
      exact ⟨Nat.lt_succ_self _, h.asked⟩
    · obtain ⟨l₀, hl₀, hgo₀, hsent₀⟩ := hsends j l hl hgo hsent fun heq =>
        hij (Option.some.inj heq).symm
      obtain ⟨hlt, hall⟩ := h.pending j l₀ hl₀ hgo₀ hsent₀
      simp only [Function.update_of_ne hij]
      exact ⟨Nat.lt_succ_of_lt hlt, hall⟩

/-- The one request that is under way leads to a delivery. -/
theorem Ordered.deliver {g : Ledger} {c c' : Channel} (h : Ordered g c) {i : Nat} {l : Loop}
    (hl : c.loops[i]? = some l) (hgo : l.cancelled = false) (hsent : l.request = some .sent)
    (hnone : ∀ (j : Nat) (l' : Loop), c'.loops[j]? = some l' → l'.cancelled = false →
      l'.request ≠ some .sent) :
    Ordered { g with origins := g.origins ++ [g.last i] } c' := by
  obtain ⟨hlast, hall⟩ := h.pending i l hl hgo hsent
  refine ⟨?_, ?_, fun j l' hl' hgo' hsent' => absurd hsent' (hnone j l' hl' hgo')⟩
  · refine List.pairwise_append.mpr ⟨h.sorted, List.pairwise_singleton _ _, ?_⟩
    intro n hn m hm
    rw [List.mem_singleton.mp hm]
    exact hall n hn
  · intro n hn
    obtain hn | hn := List.mem_append.mp hn
    · exact h.asked n hn
    · rw [List.mem_singleton.mp hn]
      exact hlast

theorem Ordered.congr {g : Ledger} {c c' : Channel} (h : Ordered g c)
    (hsends : OnlySends none c c') : Ordered g c' := by
  refine ⟨h.sorted, h.asked, fun j l' hl' hgo' hsent' => ?_⟩
  obtain ⟨l, hl, hgo, hsent⟩ := hsends j l' hl' hgo' hsent' nofun
  exact h.pending j l hl hgo hsent

/-- The loop that is answered has no request under way any more, and no other one had. -/
theorem not_sent_of_answered {s : Course} {r : Record} {i : Nat}
    {result : Except TransportFailure Snapshot} {l : Loop}
    (hr : s.record? (.answered i result) = some r) (hstray : s.channel.NoStray)
    (hl : s.channel.loops[i]? = some l) (hgo : l.cancelled = false)
    (hsent : l.request = some .sent) (hsends : OnlySends none s.channel r.after) :
    ∀ (j : Nat) (l' : Loop), r.after.loops[j]? = some l' → l'.cancelled = false →
      l'.request ≠ some .sent := by
  intro j l' hl' hgo' hsent'
  obtain ⟨l₀, hl₀, hgo₀, _⟩ := hsends j l' hl' hgo' hsent' nofun
  obtain rfl := hstray.eq_of_not_cancelled hl hl₀ hgo hgo₀
  obtain ⟨_, hr'⟩ := Option.ite_none_right_eq_some.mp hr
  obtain rfl := Option.some.inj hr'
  rw [Channel.answer_eq hl hsent] at hl'
  obtain rfl := Option.some.inj ((Channel.update_self hl _).symm.trans hl')
  rw [(l.answer_spec s.channel.threshold s.receiving result).1] at hsent'
  cases hsent'

theorem Ordered.step {s s' : Course} {e : Event} (hpos : 0 < s.channel.interval)
    (hstray : s.channel.NoStray) (h : Ordered (ledger s.history) s.channel)
    (hs : s.step e = some s') : Ordered (ledger s'.history) s'.channel := by
  obtain ⟨r, hr, hchannel, _, hhistory⟩ := step_spec hs
  obtain ⟨hevent, hbefore, _⟩ := before_of_record? hr
  rw [hchannel, hhistory, ledger_concat]
  -- What is under way now was so before, or was just sent.
  have hsends : ∀ i, (∀ j, i ≠ some j → r.asks j = false) → OnlySends i s.channel r.after := by
    intro i hask j l' hl' hgo' hsent' hne
    rw [← hbefore]
    exact (shift_of_record? hpos hr j).sent_before hl' hgo' hsent' (hask j hne)
  by_cases hask : ∃ i, r.asks i = true
  · obtain ⟨i, hask⟩ := hask
    obtain ⟨hrequest, hsome⟩ := asks_of_event hask
    have hadd : (ledger s.history).add r = { ledger s.history with
        asked := (ledger s.history).asked + 1
        last := Function.update (ledger s.history).last i (ledger s.history).asked } := by
      unfold Ledger.add
      rw [hrequest]
      exact if_pos hsome
    rw [hadd]
    refine h.ask (hsends (some i) fun j hne => ?_)
    have hij : i ≠ j := fun heq => hne (congrArg some heq)
    simp [Record.asks, hrequest, hij]
  · have hask : ∀ i, r.asks i = false := fun i => by
      simpa using fun htrue => hask ⟨i, htrue⟩
    have hsends := hsends none fun j _ => hask j
    obtain hquiet | ⟨_, i, result, l, d, he, hl, hsent, hgo, hdelivered⟩ := delivered_of_record? hr
    · rw [Ledger.add_of_quiet hask hquiet]
      exact h.congr hsends
    · have hadd : (ledger s.history).add r = { ledger s.history with
          origins := (ledger s.history).origins ++ [(ledger s.history).last i] } := by
        unfold Ledger.add
        rw [hevent, he, hdelivered]
        rfl
      rw [hadd]
      subst he
      exact h.deliver hl hgo hsent (not_sent_of_answered hr hstray hl hgo hsent hsends)

/-! ### One outstanding request at most can deliver -/

theorem Shift.cancelled_after {r : Record} {i : Nat} (h : Shift r i) {l : Loop}
    (hl : r.loopBefore i = some l) (hcancelled : l.cancelled = true) :
    ∃ l', r.loopAfter i = some l' ∧ l'.cancelled = true := by
  cases h with
  | absent hbefore => simp [hbefore] at hl
  | starts _ _ hbefore => simp [hbefore] at hl
  | answers l₀ l' hbefore hafter _ _ _ _ _ _ hkeeps =>
    obtain rfl := Option.some.inj (hbefore.symm.trans hl)
    exact ⟨l', hafter, hkeeps hcancelled⟩
  | keeps l₀ hbefore hafter | cancels l₀ hbefore hafter | begins l₀ hbefore _ _ hafter
  | returns l₀ hbefore _ hafter | issues l₀ _ hbefore _ _ _ _ hafter
  | misses l₀ _ hbefore _ _ _ _ hafter | asks l₀ hbefore _ _ hafter
  | forgoes l₀ hbefore _ _ hafter | abandons l₀ hbefore _ _ hafter =>
    obtain rfl := Option.some.inj (hbefore.symm.trans hl)
    first
    | exact ⟨_, hafter, hcancelled⟩
    | exact ⟨_, hafter, rfl⟩

theorem interval_of_reaches {allowed : Course → Event → Prop} {s₀ s : Course}
    (h : Reaches allowed s₀ s) : s.channel.interval = s₀.channel.interval := by
  induction h with
  | refl => rfl
  | step e _ _ hs ih =>
    obtain ⟨r, hr, hchannel, _⟩ := step_spec hs
    rw [hchannel, interval_of_record? hr, ih]

/-- A cancelled loop stays cancelled. -/
theorem cancelled_of_reaches {allowed : Course → Event → Prop} {s₀ s : Course}
    (hpos : 0 < s₀.channel.interval) (h : Reaches allowed s₀ s) {i : Nat}
    (h₀ : ∃ l, s₀.channel.loops[i]? = some l ∧ l.cancelled = true) :
    ∃ l, s.channel.loops[i]? = some l ∧ l.cancelled = true := by
  induction h with
  | refl => exact h₀
  | step e hreach _ hs ih =>
    obtain ⟨l, hl, hcancelled⟩ := ih
    obtain ⟨r, hr, hchannel, _⟩ := step_spec hs
    obtain ⟨_, hbefore, _⟩ := before_of_record? hr
    rw [hchannel]
    have hshift := shift_of_record? (interval_of_reaches hreach ▸ hpos) hr i
    exact hshift.cancelled_after (by rw [Record.loopBefore, hbefore]; exact hl) hcancelled

/-- A loop whose request can still lead to a delivery is not cancelled. -/
theorem Promising.not_cancelled {s : Course} (hpos : 0 < s.channel.interval) {i : Nat}
    (h : s.Promising i) : ∃ l, s.channel.loops[i]? = some l ∧ l.cancelled = false := by
  obtain ⟨houtstanding, s', result, r, hreach, hr, hdelivered⟩ := h
  obtain ⟨l, hl, _⟩ := (Option.any_eq_true _ _).mp houtstanding
  refine ⟨l, hl, Bool.eq_false_iff.mpr fun hcancelled => hdelivered ?_⟩
  obtain ⟨l', hl', hcancelled'⟩ := cancelled_of_reaches hpos hreach ⟨l, hl, hcancelled⟩
  obtain hquiet | ⟨_, j, _, l₁, _, he, hl₁, _, hgo, _⟩ := delivered_of_record? hr
  · exact hquiet
  · obtain ⟨rfl, _⟩ := Event.answered.inj he
    obtain rfl := Option.some.inj (hl'.symm.trans hl₁)
    rw [hcancelled'] at hgo
    cases hgo

theorem receiving_of_reaches {allowed : Course → Event → Prop} {s₀ s : Course}
    (h : Reaches allowed s₀ s) (hreceiving : s.receiving = true) : s₀.receiving = true := by
  induction h with
  | refl => exact hreceiving
  | step e _ _ hs ih =>
    obtain ⟨r, _, rfl⟩ := Option.map_eq_some_iff.mp hs
    cases e <;> first | exact ih hreceiving | cases hreceiving

/-- A status is delivered if it is the answer to a loop that is not cancelled. -/
theorem delivers_of_sent {s : Course} {i : Nat} {l : Loop} (hreceiving : s.receiving = true)
    (hl : s.channel.loops[i]? = some l) (hgo : l.cancelled = false)
    (hsent : l.request = some .sent) (status : Snapshot) :
    ∃ r, s.record? (.answered i (.ok status)) = some r ∧ r.delivered ≠ [] := by
  have hready : (s.channel.loops[i]?).any (·.request = some .sent) = true := by
    simp [hl, hsent]
  refine ⟨_, if_pos hready, ?_⟩
  rw [Channel.answer_eq hl hsent, hreceiving]
  simp [Loop.answer, hgo]

/-- A request that waits to be sent can be sent now. -/
theorem sends {s : Course} {i : Nat} {l : Loop} (hl : s.channel.loops[i]? = some l)
    (hgo : l.cancelled = false) (hqueued : l.request = some .queued) :
    ∃ s', s.step (.request i) = some s' ∧ s'.receiving = s.receiving ∧
      ∃ l', s'.channel.loops[i]? = some l' ∧ l'.cancelled = false ∧ l'.request = some .sent := by
  have hready : (s.channel.loops[i]?).any Loop.requestReady = true := by
    simp [hl, Loop.requestReady, hqueued]
  refine ⟨_, congrArg (Option.map _) (if_pos hready), rfl, l.runRequest.1, ?_, ?_⟩
  · show (s.channel.runRequest i).1.loops[i]? = _
    rw [Channel.runRequest_eq hl]
    exact Channel.update_self hl _
  · simp [Loop.runRequest, hqueued, hgo]

/-- A request can still lead to a delivery exactly if its loop is not cancelled, and
    somebody takes deliveries. -/
theorem promising_iff {s : Course} (hpos : 0 < s.channel.interval) {i : Nat} :
    s.Promising i ↔ s.receiving = true ∧
      ∃ l, s.channel.loops[i]? = some l ∧ l.cancelled = false ∧ l.request ≠ none := by
  constructor
  · intro h
    obtain ⟨l, hl, hgo⟩ := h.not_cancelled hpos
    obtain ⟨houtstanding, s', _, r, hreach, hr, hdelivered⟩ := h
    refine ⟨?_, l, hl, hgo, ?_⟩
    · obtain hquiet | ⟨hreceiving, _⟩ := delivered_of_record? hr
      · exact absurd hquiet hdelivered
      · exact receiving_of_reaches hreach hreceiving
    · intro hnone
      simp [Outstanding, hl, hnone] at houtstanding
  · rintro ⟨hreceiving, l, hl, hgo, hrequest⟩
    have houtstanding : s.Outstanding i := by
      simpa [Outstanding, hl, Option.isSome_iff_ne_none] using hrequest
    refine ⟨houtstanding, ?_⟩
    cases hcase : l.request with
    | none => exact absurd hcase hrequest
    | some request =>
      -- A running status is delivered; a request that is not sent yet is sent first.
      cases request with
      | sent =>
        obtain ⟨r, hr, hdelivered⟩ :=
          delivers_of_sent hreceiving hl hgo hcase { status := .running }
        exact ⟨s, _, r, .refl, hr, hdelivered⟩
      | queued =>
        obtain ⟨s₁, hstep, hreceiving₁, l₁, hl₁, hgo₁, hsent₁⟩ := sends hl hgo hcase
        obtain ⟨r, hr, hdelivered⟩ := delivers_of_sent (hreceiving₁.trans hreceiving) hl₁ hgo₁
          hsent₁ { status := .running }
        refine ⟨s₁, _, r, .step _ .refl ?_ hstep, hr, hdelivered⟩
        intro s' hs'
        obtain rfl := Option.some.inj (hstep.symm.trans hs')
        simp [Outstanding, hl₁, hsent₁]

/-! ### The times of the ticks -/

/-- The first `n` ticks of a loop that is started at `t₀`. -/
def schedule (interval t₀ n : Nat) : List Nat := (List.range n).map fun k => t₀ + (k + 1) * interval

theorem schedule_succ (interval t₀ n : Nat) :
    schedule interval t₀ (n + 1) = schedule interval t₀ n ++ [t₀ + (n + 1) * interval] := by
  rw [schedule, List.range_succ, List.map_append]
  rfl

theorem times_concat (mark : Record → Bool) (history : List Record) (r : Record) :
    times mark (history ++ [r]) = times mark history ++ if mark r then [r.time] else [] := by
  cases hmark : mark r <;> simp [times, hmark]

/-- **Invariant.** When a loop was started, has ticked, and was cancelled. It is due one
    interval after its last tick, and the time has not come to more than that. -/
inductive Metronome (interval now : Nat) :
    Option Loop → List Nat → List Nat → List Nat → Prop where
  | absent : Metronome interval now none [] [] []
  /-- The loop was just started, and has yet to set its first tick. -/
  | waits (l : Loop) (hgo : l.cancelled = false) (hlive : l.ended = false) (hdue : l.due = none) :
      Metronome interval now (some l) [now] [] []
  | ticks (l : Loop) (t₀ n : Nat) (hgo : l.cancelled = false) (hlive : l.ended = false)
      (hdue : l.due = some (t₀ + (n + 1) * interval)) (hge : t₀ + n * interval ≤ now)
      (hle : now ≤ t₀ + (n + 1) * interval) :
      Metronome interval now (some l) [t₀] (schedule interval t₀ n) []
  | cancelled (l : Loop) (t₀ n c : Nat) (hcancelled : l.cancelled = true)
      (hge : t₀ + n * interval ≤ c) (hle : c ≤ t₀ + (n + 1) * interval) :
      Metronome interval now (some l) [t₀] (schedule interval t₀ n) [c]

namespace Metronome

variable {interval now : Nat} {l : Loop} {starts ticks cancels : List Nat}

/-- A change that leaves the clockwork of the loop as it is. -/
theorem congr (h : Metronome interval now (some l) starts ticks cancels) (l' : Loop)
    (hcancelled : l'.cancelled = l.cancelled) (hdue : l'.due = l.due)
    (hended : l.cancelled = false → l'.ended = l.ended) :
    Metronome interval now (some l') starts ticks cancels := by
  cases h with
  | waits _ hgo hlive hdue₀ =>
    exact .waits l' (hcancelled.trans hgo) ((hended hgo).trans hlive) (hdue.trans hdue₀)
  | ticks _ t₀ n hgo hlive hdue₀ hge hle =>
    exact .ticks l' t₀ n (hcancelled.trans hgo) ((hended hgo).trans hlive) (hdue.trans hdue₀)
      hge hle
  | cancelled _ t₀ n c hcancelled₀ hge hle =>
    exact .cancelled l' t₀ n c (hcancelled.trans hcancelled₀) hge hle

theorem cancel (h : Metronome interval now (some l) starts ticks cancels) (l' : Loop)
    (hcancelled : l'.cancelled = true) :
    Metronome interval now (some l') starts ticks
      (cancels ++ if !l.cancelled then [now] else []) := by
  cases h with
  | waits _ hgo hlive hdue =>
    rw [hgo]
    exact .cancelled l' now 0 now hcancelled (by omega) (by omega)
  | ticks _ t₀ n hgo hlive hdue hge hle =>
    rw [hgo]
    exact .cancelled l' t₀ n now hcancelled hge hle
  | cancelled _ t₀ n c hcancelled₀ hge hle =>
    rw [hcancelled₀]
    exact .cancelled l' t₀ n c hcancelled hge hle

/-- The loop ticks when it is due, and is due again an interval later. -/
theorem tick (h : Metronome interval now (some l) starts ticks cancels) (l' : Loop) {due : Nat}
    (hgo : l.cancelled = false) (hdue : l.due = some due) (hle : due ≤ now)
    (hgo' : l'.cancelled = l.cancelled) (hlive' : l'.ended = l.ended)
    (hdue' : l'.due = some (Loop.nextTick interval due now)) :
    Metronome interval now (some l') starts (ticks ++ [now]) cancels := by
  cases h with
  | waits _ _ _ hnone =>
    rw [hnone] at hdue
    cases hdue
  | cancelled _ _ _ _ hcancelled =>
    rw [hcancelled] at hgo
    cases hgo
  | ticks _ t₀ n _ hlive hdue₀ hge hle₀ =>
    -- The time is the very one at which the loop is due.
    obtain rfl := Option.some.inj (hdue₀.symm.trans hdue)
    obtain rfl : now = t₀ + (n + 1) * interval := Nat.le_antisymm hle₀ hle
    rw [← schedule_succ]
    have hnext : Loop.nextTick interval (t₀ + (n + 1) * interval) (t₀ + (n + 1) * interval) =
        t₀ + (n + 1 + 1) * interval := by
      rw [Loop.nextTick, Nat.sub_self, Nat.zero_div, Nat.zero_add, Nat.add_assoc, ← Nat.add_mul]
    refine .ticks l' t₀ (n + 1) (hgo'.trans hgo) (hlive'.trans hlive) (hdue'.trans ?_)
      (Nat.le_refl _) ?_
    · rw [hnext]
    · exact Nat.add_le_add_left (Nat.mul_le_mul_right _ (Nat.le_succ _)) _

end Metronome

/-- What an event does to the clockwork of a loop. -/
theorem Shift.metronome {r : Record} {i : Nat} {starts ticks cancels : List Nat} (h : Shift r i)
    (hmet : Metronome r.before.interval r.time (r.loopBefore i) starts ticks cancels) :
    Metronome r.before.interval r.time (r.loopAfter i)
      (starts ++ if r.starts i then [r.time] else [])
      (ticks ++ if r.ticks i then [r.time] else [])
      (cancels ++ if r.cancels i then [r.time] else []) := by
  rw [ticks_eq]
  -- What the times grow by is told by the marks alone.
  change Metronome _ _ _ (starts ++ if (r.marks i).starts then _ else _)
    (ticks ++ if (r.marks i).issues || (r.marks i).misses then _ else _)
    (cancels ++ if (r.marks i).cancels then _ else _)
  cases h with
  | absent hbefore hafter hmarks =>
    rw [hbefore] at hmet
    simpa [hmarks, hafter] using hmet
  | starts taskId cancelled hbefore hafter hmarks =>
    rw [hbefore] at hmet
    rw [hafter, hmarks]
    cases hmet
    cases cancelled with
    | false => exact .waits _ rfl rfl rfl
    | true => exact .cancelled _ r.time 0 r.time rfl (by omega) (by omega)
  | cancels l hbefore hafter hmarks =>
    rw [hbefore] at hmet
    simpa [hmarks, hafter] using hmet.cancel { l with cancelled := true } rfl
  | begins l hbefore hgo hdue hafter hmarks =>
    rw [hbefore] at hmet
    rw [hafter, hmarks]
    cases hmet with
    | waits _ _ hlive _ =>
      refine .ticks _ r.time 0 hgo hlive ?_ (by omega) (by omega)
      rw [Nat.zero_add, Nat.one_mul]
    | ticks _ _ _ _ _ hsome => simp [hdue] at hsome
    | cancelled _ _ _ _ hcancelled => simp [hgo] at hcancelled
  | issues l due hbefore hgo hdue hle hidle hafter hmarks =>
    rw [hbefore] at hmet
    simpa [hmarks, hafter] using hmet.tick { l with
      due := some (Loop.nextTick r.before.interval due r.time), request := some .queued }
      hgo hdue hle rfl rfl rfl
  | misses l due hbefore hgo hdue hle hbusy hafter hmarks =>
    rw [hbefore] at hmet
    simpa [hmarks, hafter] using hmet.tick { l with
      due := some (Loop.nextTick r.before.interval due r.time)
      stats := { l.stats with skipped := l.stats.skipped + 1 } }
      hgo hdue hle rfl rfl rfl
  | returns l hbefore hcancelled hafter hmarks =>
    rw [hbefore] at hmet
    simpa [hmarks, hafter] using hmet.congr { l with ended := true } rfl rfl (by simp [hcancelled])
  | answers l l' hbefore hafter hsent hidle hdue hended hrequests hskipped hcancelled hmarks =>
    rw [hbefore] at hmet
    rw [hafter, hmarks]
    cases hafterwards : l'.cancelled with
    | false =>
      have hgo : l.cancelled = false := Bool.eq_false_iff.mpr fun htrue => by
        simp [hcancelled htrue] at hafterwards
      simpa using hmet.congr l' (hafterwards.trans hgo.symm) hdue fun _ => hended
    | true => simpa using hmet.cancel l' hafterwards
  | keeps l hbefore hafter hmarks | asks l hbefore _ _ hafter hmarks
  | forgoes l hbefore _ _ hafter hmarks | abandons l hbefore _ _ hafter hmarks =>
    rw [hbefore] at hmet
    rw [hafter, hmarks]
    simp only [Bool.or_false, Bool.false_eq_true, if_false, List.append_nil]
    exact hmet.congr _ rfl rfl fun _ => rfl

/-- Where the clockwork of loop `i` stands. -/
def Timed (s : Course) (i : Nat) : Prop :=
  Metronome s.channel.interval s.now s.channel.loops[i]? (times (·.starts i) s.history)
    (times (·.ticks i) s.history) (times (·.cancels i) s.history)

/-- Time passes while nothing can run, so every loop that polls has its next tick set. -/
theorem Metronome.elapse {interval now duration : Nat} {o : Option Loop}
    {starts ticks cancels : List Nat} (h : Metronome interval now o starts ticks cancels)
    (hrest : ∀ l, o = some l → l.ready now = false)
    (hdue : ∀ l, o = some l → l.isLive = true → l.due.all (now + duration ≤ ·) = true) :
    Metronome interval (now + duration) o starts ticks cancels := by
  cases h with
  | absent => exact .absent
  | waits l hgo hlive hnone =>
    have hidle := hrest l rfl
    simp [Loop.ready, hlive, hnone] at hidle
  | ticks l t₀ n hgo hlive hsome hge hle =>
    have hbound := hdue l rfl (by simp [Loop.isLive, hgo, hlive])
    rw [hsome, Option.all_some, decide_eq_true_eq] at hbound
    exact .ticks l t₀ n hgo hlive hsome (Nat.le_add_right_of_le hge) hbound
  | cancelled l t₀ n c hcancelled hge hle => exact .cancelled l t₀ n c hcancelled hge hle

theorem Timed.step {s s' : Course} {e : Event} {i : Nat} (hpos : 0 < s.channel.interval)
    (h : s.Timed i) (hallowed : s.punctual e) (hs : s.step e = some s') : s'.Timed i := by
  obtain ⟨r, hr, hchannel, hnow, hhistory⟩ := step_spec hs
  obtain ⟨hevent, hbefore, htime⟩ := before_of_record? hr
  have hmet₀ : Metronome r.before.interval r.time (r.loopBefore i) (times (·.starts i) s.history)
      (times (·.ticks i) s.history) (times (·.cancels i) s.history) := by
    rw [Record.loopBefore, hbefore, htime]
    exact h
  have hmet := (shift_of_record? hpos hr i).metronome hmet₀
  have hinterval : s'.channel.interval = r.before.interval := by
    rw [hchannel, interval_of_record? hr, hbefore]
  unfold Timed
  rw [hhistory, times_concat, times_concat, times_concat, hinterval, hchannel, hnow]
  cases e with
  | elapsed duration =>
    obtain ⟨hrest, hdue⟩ := hallowed
    obtain rfl := Option.some.inj hr
    refine hmet.elapse ?_ ?_
    · intro l hl
      exact (hrest l (List.mem_of_getElem? hl)).1
    · intro l hl
      exact hdue l (List.mem_of_getElem? hl)
  | _ =>
    rw [htime] at hmet ⊢
    exact hmet

/-! ### Every course -/

/-- Loop `i` was started once, at `t₀`, and has ticked `n` times, an interval after the start
    and after each tick. It has missed no tick until it was cancelled, or until now. -/
structure OnTime (s : Course) (i t₀ n : Nat) : Prop where
  started : times (·.starts i) s.history = [t₀]
  ticked : times (·.ticks i) s.history =
    (List.range n).map fun k => t₀ + (k + 1) * s.channel.interval
  complete :
    (∃ c, times (·.cancels i) s.history = [c] ∧
      t₀ + n * s.channel.interval ≤ c ∧ c ≤ t₀ + (n + 1) * s.channel.interval) ∨
    (times (·.cancels i) s.history = [] ∧ t₀ + n * s.channel.interval ≤ s.now ∧
      s.now ≤ t₀ + (n + 1) * s.channel.interval ∧
      (s.AtRest → s.now < t₀ + (n + 1) * s.channel.interval))

/-- What the loops of the channel do is accounted for. -/
structure Metered (s : Course) : Prop where
  /-- One outstanding request at most can still lead to a delivery. -/
  single : ∀ i j, s.Promising i → s.Promising j → i = j
  ticked : ∀ r ∈ s.history, ∀ i, r.ticks i = true → Ticked r i
  tallied : ∀ i, s.Tallied i
  /-- At rest, every tick has come to a request or was skipped. -/
  settled : s.AtRest → ∀ i l, s.channel.loops[i]? = some l →
    s.history.countP (·.ticks i) = l.stats.requests + l.stats.skipped
  /-- The requests that led to deliveries were sent in the order of these. -/
  ordered : (ledger s.history).origins.Pairwise (· < ·)

theorem Timed.onTime {s : Course} {i : Nat} (h : s.Timed i) (hi : i < s.channel.loops.length) :
    ∃ t₀ n, s.OnTime i t₀ n := by
  have hloop : s.channel.loops[i]? = some s.channel.loops[i] := List.getElem?_eq_getElem hi
  unfold Timed at h
  rw [hloop] at h
  generalize hstarts : times (·.starts i) s.history = starts at h
  generalize hticks : times (·.ticks i) s.history = ticks at h
  generalize hcancels : times (·.cancels i) s.history = cancels at h
  cases h with
  | waits _ hgo hlive hdue =>
    refine ⟨s.now, 0, hstarts, hticks, .inr ⟨hcancels, by omega, by omega, fun hrest => ?_⟩⟩
    have hidle := (hrest _ (List.mem_of_getElem? hloop)).1
    simp [Loop.ready, hlive, hdue] at hidle
  | ticks _ t₀ n hgo hlive hdue hge hle =>
    refine ⟨t₀, n, hstarts, hticks, .inr ⟨hcancels, hge, hle, fun hrest => ?_⟩⟩
    have hidle := (hrest _ (List.mem_of_getElem? hloop)).1
    simpa [Loop.ready, hlive, hgo, hdue] using hidle
  | cancelled _ t₀ n c hcancelled hge hle =>
    exact ⟨t₀, n, hstarts, hticks, .inl ⟨c, hcancels, hge, hle⟩⟩

theorem noStray_of_reaches {allowed : Course → Event → Prop} {s₀ s : Course}
    (h₀ : s₀.channel.NoStray) (h : Reaches allowed s₀ s) : s.channel.NoStray := by
  induction h with
  | refl => exact h₀
  | step e _ _ hs ih =>
    obtain ⟨r, hr, hchannel, _⟩ := step_spec hs
    rw [hchannel]
    exact noStray_of_record? hr ih

section Opened

variable {allowed : Course → Event → Prop} {interval threshold : Nat} {s : Course}

theorem opened_noStray : (opened interval threshold).channel.NoStray := by
  intro i l hl
  simp [opened] at hl

theorem interval_pos (hpos : 0 < interval) (h : Reaches allowed (opened interval threshold) s) :
    0 < s.channel.interval := by
  rw [interval_of_reaches h]
  exact hpos

theorem tallied_of_reaches (hpos : 0 < interval)
    (h : Reaches allowed (opened interval threshold) s) (i : Nat) : s.Tallied i := by
  induction h with
  | refl => constructor <;> simp [opened, requests, skipped, isQueued, isSent]
  | step e hreach _ hs ih => exact ih.step (interval_pos hpos hreach) hs

theorem ticked_of_reaches (hpos : 0 < interval)
    (h : Reaches allowed (opened interval threshold) s) :
    ∀ r ∈ s.history, ∀ i, r.ticks i = true → Ticked r i := by
  induction h with
  | refl =>
    intro r hr
    simp [opened] at hr
  | step e hreach _ hs ih =>
    obtain ⟨r, hr, _, _, hhistory⟩ := step_spec hs
    intro r' hr' i hticks
    rw [hhistory] at hr'
    obtain hold | hnew := List.mem_append.mp hr'
    · exact ih r' hold i hticks
    · obtain rfl := List.mem_singleton.mp hnew
      exact (shift_of_record? (interval_pos hpos hreach) hr i).ticked hticks

theorem ordered_of_reaches (hpos : 0 < interval)
    (h : Reaches allowed (opened interval threshold) s) :
    Ordered (ledger s.history) s.channel := by
  induction h with
  | refl =>
    constructor
    · exact .nil
    · intro n hn
      cases hn
    · intro i l hl
      simp [opened] at hl
  | step e hreach _ hs ih =>
    exact ih.step (interval_pos hpos hreach) (noStray_of_reaches opened_noStray hreach) hs

theorem timed_of_reaches (hpos : 0 < interval)
    (h : Reaches punctual (opened interval threshold) s) (i : Nat) : s.Timed i := by
  induction h with
  | refl => exact .absent
  | step e hreach hallowed hs ih =>
    exact ih.step (interval_pos hpos hreach) hallowed hs

/-- **Main theorem.** A poll channel is metered in every course, and its loops are on time in
    every punctual one. -/
theorem metered_of_reaches (hpos : 0 < interval)
    (h : Reaches anytime (opened interval threshold) s) :
    s.Metered ∧ (Reaches punctual (opened interval threshold) s →
      ∀ i < s.channel.loops.length, ∃ t₀ n, s.OnTime i t₀ n) := by
  have hpos' := interval_pos hpos h
  have hstray := noStray_of_reaches opened_noStray h
  refine ⟨⟨?_, ticked_of_reaches hpos h, tallied_of_reaches hpos h, ?_,
    (ordered_of_reaches hpos h).sorted⟩, ?_⟩
  · intro i j hi hj
    obtain ⟨l, hl, hgo⟩ := hi.not_cancelled hpos'
    obtain ⟨l', hl', hgo'⟩ := hj.not_cancelled hpos'
    exact hstray.eq_of_not_cancelled hl hl' hgo hgo'
  · intro hrest i l hl
    -- No request waits to be sent.
    have hready := (hrest l (List.mem_of_getElem? hl)).2
    have hsent : isQueued (some l) = false := by
      cases hrequest : l.request with
      | none => simp [isQueued, hrequest]
      | some request => cases request <;> simp [isQueued, Loop.requestReady, hrequest] at hready ⊢
    obtain ⟨hissued, hmissed, -, -⟩ := tallied_of_reaches hpos h i
    rw [hl, hsent] at hissued
    rw [hl] at hmissed
    rw [countP_ticks, hissued, hmissed]
    rfl
  · intro hpunctual i hi
    exact (timed_of_reaches hpos hpunctual i).onTime hi

end Opened

/-- A tick finds the request of the one before under way, another task is polled instead,
    and its status is delivered. -/
def restarted : List Event :=
  [.start "old", .loop 0, .elapsed 2, .loop 0, .request 0, .elapsed 2, .loop 0, .start "new",
    .loop 0, .request 0, .loop 1, .elapsed 2, .loop 1, .request 1,
    .answered 1 (.ok { status := .running })]

/-- The first loop has ticked twice, for one request, and only the second one has delivered. -/
theorem metered_restarted : 0 < 2 ∧ ∃ s, play punctual restarted (opened 2 3) = some s ∧
    times (·.ticks 0) s.history = [2, 4] ∧ times (·.ticks 1) s.history = [6] ∧
    (ledger s.history).origins = [1] ∧ s.Metered ∧
    ∀ i < s.channel.loops.length, ∃ t₀ n, s.OnTime i t₀ n := by
  have hplayed : (play punctual restarted (opened 2 3)).any fun s =>
      times (·.ticks 0) s.history = [2, 4] ∧ times (·.ticks 1) s.history = [6] ∧
        (ledger s.history).origins = [1] := by decide
  obtain ⟨s, hs, hholds⟩ := (Option.any_eq_true ..).mp hplayed
  obtain ⟨hfirst, hsecond, horigins⟩ := of_decide_eq_true hholds
  have hreach := reaches_of_play hs
  obtain ⟨hmetered, hontime⟩ :=
    metered_of_reaches Nat.two_pos (hreach.mono fun _ _ _ => trivial)
  exact ⟨Nat.two_pos, s, hs, hfirst, hsecond, horigins, hmetered, hontime hreach⟩

end TaskTracking.Polling.Course
