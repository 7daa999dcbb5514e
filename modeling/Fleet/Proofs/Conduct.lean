import Mathlib.Logic.Relation
import Fleet.Proofs.Custody
import Fleet.Proofs.DispatchOutcome
import Fleet.Proofs.Proposals

/-! The two cycles keep to what each side may do with the pending starts and stops,
whatever the store answers and refuses. -/
namespace Fleet

/-- The same start but for its first sending, and with a priority that is read back from
its text as often as the start was written. -/
structure Start.Same (a b : Start) : Prop where
  rest : b = { a with
    priority := b.priority, delivery := { a.delivery with sentOn := b.delivery.sentOn } }
  priority : Relation.ReflTransGen (fun p q => p.reread = some q) a.priority b.priority

def Stop.Same (a b : Stop) : Prop :=
  b = { a with delivery := { a.delivery with sentOn := b.delivery.sentOn } }

namespace Store
variable {s : Store}

theorem reservedIds {n : Nat} {r : Nat × Store} (reserved : s.reserveIds n = .ok r) :
    r = (s.lastId + 1, { s with lastId := s.lastId + n }) := by
  unfold reserveIds at reserved
  cases first : exactSum s.lastId 1 with
  | error _ => simp [first, bind, Except.bind] at reserved
  | ok _ =>
    cases last : exactSum s.lastId n with
    | error _ => simp [first, last, bind, Except.bind] at reserved
    | ok _ =>
      simp only [first, last, bind, Except.bind, Except.ok.injEq] at reserved
      rw [← reserved, (exactSumOk.mp first).2, (exactSumOk.mp last).2]

theorem reservedRest {n : Nat} {r : Nat × Store} (reserved : s.reserveIds n = .ok r) :
    r.2 = { s with lastId := r.2.lastId } := by
  rw [reservedIds reserved]

theorem incrementRest {m : String} {r : Nat × Store} (counted : s.increment m = .ok r) :
    r.2 = { s with metrics := r.2.metrics } := by
  by_cases room : s.tally m < Bounds.instant
  · rw [incrementOk room, Except.ok.injEq] at counted
    subst counted
    rfl
  · rw [incrementFull room] at counted
    cases counted

end Store

namespace World
variable {w w' : World} {accepts : Message → Bool}

theorem reserved {n : Nat} {r : Except StoreError Nat}
    (served : w.serve accepts (.reserveIds n) = .ok (r, w')) :
    ∃ lastId, w' = { w with store := { w.store with lastId } } := by
  simp only [serve] at served
  cases made : w.store.reserveIds n with
  | error _ => rw [made] at served; cases served
  | ok _ =>
    rw [made] at served
    cases served
    exact ⟨_, congrArg (World.mk · w.sent) (Store.reservedRest made)⟩

theorem incremented {m : String} {r : Except StoreError Nat}
    (served : w.serve accepts (.increment m) = .ok (r, w')) :
    ∃ metrics, w' = { w with store := { w.store with metrics } } := by
  simp only [serve] at served
  cases made : w.store.increment m with
  | error _ => rw [made] at served; cases served
  | ok _ =>
    rw [made] at served
    cases served
    exact ⟨_, congrArg (World.mk · w.sent) (Store.incrementRest made)⟩

end World

namespace Call

def startMove : (c : Call) → Except StoreError c.Reply → Move Start
  | .starts, .ok rs => .read rs
  | .saveStarts rs, .ok _ => .put rs
  | .deleteStarts rs, .ok _ => .drop rs
  | .saveAnalysis rs _ _, .ok _ => .put rs
  | _, _ => .idle

def stopMove : (c : Call) → Except StoreError c.Reply → Move Stop
  | .stops, .ok rs => .read rs
  | .saveStops rs, .ok _ => .put rs
  | .deleteStops rs, .ok _ => .drop rs
  | .saveAnalysis _ rs _, .ok _ => .put rs
  | _, _ => .idle

theorem startMoveRefused (c : Call) (e : StoreError) : c.startMove (.error e) = .idle := by
  cases c <;> rfl

theorem stopMoveRefused (c : Call) (e : StoreError) : c.stopMove (.error e) = .idle := by
  cases c <;> rfl

variable {s : Surroundings} {c : Call} {w w' : World} {r : Except StoreError c.Reply}

theorem attemptedMoves (served : Procedure.attempt s c w = .ok (r, w')) :
    (w'.store.starts = (c.startMove r).apply Start.key w.store.starts ∧
      ∀ rs, c.startMove r = .read rs → w.store.starts.scan = .ok rs) ∧
    (w'.store.stops = (c.stopMove r).apply Stop.key w.store.stops ∧
      ∀ rs, c.stopMove r = .read rs → w.store.stops.scan = .ok rs) := by
  unfold Procedure.attempt at served
  split at served
  · cases served
    simp [startMoveRefused, stopMoveRefused, Move.apply]
  · cases c with
    | reserveIds n =>
      obtain ⟨lastId, rfl⟩ := World.reserved served
      exact ⟨⟨rfl, fun _ h => by cases h⟩, rfl, fun _ h => by cases h⟩
    | increment m =>
      obtain ⟨metrics, rfl⟩ := World.incremented served
      exact ⟨⟨rfl, fun _ h => by cases h⟩, rfl, fun _ h => by cases h⟩
    | starts =>
      cases served
      cases scan : w.store.starts.scan <;> simp [startMove, stopMove, Move.apply]
    | stops =>
      cases served
      cases scan : w.store.stops.scan <;> simp [startMove, stopMove, Move.apply]
    | _ =>
      cases served
      exact ⟨⟨rfl, fun _ h => by cases h⟩, rfl, fun _ h => by cases h⟩

end Call

namespace Queue

def starts : Queue Start where
  key := Start.key
  delivery := Start.delivery
  same := Start.Same
  guarded s := s.delivery.skipVerification = true → s.reason = .evacuating
  rows := Store.starts
  move := Call.startMove
  sameRefl a := ⟨rfl, .refl⟩
  sameTrans first second := ⟨by rw [second.rest, first.rest], first.priority.trans second.priority⟩
  sameKey h := by rw [h.rest]; rfl
  sameId h := by rw [h.rest]
  sameSettled h := by
    obtain ⟨p, reread, rfl⟩ := Start.settleSome h
    exact ⟨rfl, .single reread⟩
  sameGuarded h guarded := by rw [h.rest]; exact guarded
  pending starts _ := starts
  refused := Call.startMoveRefused
  served h := (Call.attemptedMoves h).1

def stops : Queue Stop where
  key := Stop.key
  delivery := Stop.delivery
  same := Stop.Same
  guarded s := s.delivery.skipVerification = false
  rows := Store.stops
  move := Call.stopMove
  sameRefl _ := rfl
  sameTrans first second := by rw [Stop.Same, second, first]
  sameKey h := by rw [h]; rfl
  sameId h := by rw [h]
  sameSettled h := by
    rw [Stop.settle, Option.some.injEq] at h
    rw [Stop.Same, h]
  sameGuarded h guarded := by rw [h]; exact guarded
  pending _ stops := stops
  refused := Call.stopMoveRefused
  served h := (Call.attemptedMoves h).2

variable {α : Type} [Record α] (q : Queue α) (side : Side)

/-- Whatever is answered to each call, the next is one that the side may make, and what
is relied on at the end goes with the result. Lists that are read have distinct keys. -/
def Conducts {β : Type} (post : Option (List α) → β → Prop) :
    Option (List α) → Procedure β → Prop
  | k, .done b => post k b
  | _, .halt _ => True
  | k, .call c next => ∀ r, (∀ rs, q.move c r = .read rs → (rs.map q.key).Nodup) →
      q.Allowed side k (q.move c r) ∧ Conducts post ((q.move c r).known q.key k) (next r)

def Follows {β : Type} (post : Option (List α) → β → Prop) (k : Option (List α)) (x : Cycle β) : Prop :=
  q.Conducts side (fun k r => ∀ b, r = .ok b → post k b) k x.run

variable {q side} {β γ : Type} {k : Option (List α)} {post : Option (List α) → β → Prop}

theorem conductsBind {p : Procedure γ} {f : γ → Procedure β}
    (h : q.Conducts side (fun k a => q.Conducts side post k (f a)) k p) :
    q.Conducts side post k (p.bind f) := by
  induction p generalizing k with
  | done a => exact h
  | halt _ => trivial
  | call c next ih => exact fun r distinct => ⟨(h r distinct).1, ih r (h r distinct).2⟩

theorem conductsMono {post' : Option (List α) → β → Prop} (weaker : ∀ k b, post k b → post' k b)
    {p : Procedure β} (h : q.Conducts side post k p) : q.Conducts side post' k p := by
  induction p generalizing k with
  | done a => exact weaker k a h
  | halt _ => trivial
  | call c next ih => exact fun r distinct => ⟨(h r distinct).1, ih r (h r distinct).2⟩

theorem followsBind {x : Cycle γ} {f : γ → Cycle β}
    (h : q.Follows side (fun k a => q.Follows side post k (f a)) k x) :
    q.Follows side post k (x >>= f) := by
  refine conductsBind (conductsMono (fun k r ok => ?_) h)
  cases r with
  | ok a => exact ok a rfl
  | error e => exact fun b h => nomatch h

theorem followsPure {b : β} (h : post k b) : q.Follows side post k (pure b) := by
  rintro b' ⟨⟩
  exact h

theorem followsThrow (e : CycleError) : q.Follows side post k (throw e : Cycle β) := by
  rintro b ⟨⟩

theorem allowedIdle (k : Option (List α)) : q.Allowed side k .idle := by
  cases side <;> cases k <;> trivial

theorem followsCall {c : Call} {f : StoreError → CycleError} {x : Cycle c.Reply}
    {post : Option (List α) → c.Reply → Prop}
    (calls : x.run = .call c fun | .ok r => .done (.ok r) | .error e => .done (.error (f e)))
    (h : ∀ a, (∀ rs, q.move c (.ok a) = .read rs → (rs.map q.key).Nodup) →
      q.Allowed side k (q.move c (.ok a)) ∧ post ((q.move c (.ok a)).known q.key k) a) :
    q.Follows side post k x := by
  rw [Follows, calls]
  intro r distinct
  cases r with
  | ok a =>
    refine ⟨(h a distinct).1, ?_⟩
    rintro b ⟨⟩
    exact (h a distinct).2
  | error e =>
    rw [q.refused]
    exact ⟨allowedIdle k, fun b h => nomatch h⟩

theorem followsIdle {c : Call} {f : StoreError → CycleError} {x : Cycle c.Reply}
    {post : Option (List α) → c.Reply → Prop}
    (calls : x.run = .call c fun | .ok r => .done (.ok r) | .error e => .done (.error (f e)))
    (idle : ∀ a, q.move c (.ok a) = .idle) (h : ∀ a, post k a) : q.Follows side post k x :=
  followsCall calls fun a _ => by
    rw [idle a]
    exact ⟨allowedIdle k, h a⟩

theorem followsLift {p : Procedure β} (h : q.Conducts side post k p) :
    q.Follows side post k (ExceptT.lift p) :=
  conductsBind (conductsMono (fun k a done => by rintro b ⟨⟩; exact done) h)

theorem followsFresh {post : Option (List α) → Unit → Prop} {now ttl : Nat}
    (idle : ∀ a, q.move .freshness (.ok a) = .idle) (h : post k ()) :
    q.Follows side post k (Cycle.requireFresh now ttl) := by
  refine followsBind (followsIdle rfl idle fun f => ?_)
  cases desired : Freshness.desiredIsFresh f now ttl with
  | false => exact followsBind (followsThrow _)
  | true =>
    cases actual : Freshness.actualIsFresh f now ttl with
    | false => exact followsThrow _
    | true => exact followsPure h

theorem followsSnapshot {post : Option (List α) → Snapshot → Prop} {now : Nat}
    (idle : ∀ a, q.move .desiredState (.ok a) = .idle)
    (idle' : ∀ a, q.move (.actualState now) (.ok a) = .idle) (h : ∀ v, post k v) :
    q.Follows side post k (Cycle.snapshot now) :=
  followsBind (followsIdle rfl idle fun _ => followsBind (followsIdle rfl idle' fun _ =>
    followsPure (h _)))

def renumbered (d : Delivery) (id : Nat) : Delivery := { d with messageId := id }

theorem memNumberStarts {first : Nat} {starts : List Start} {s : Start}
    (member : s ∈ Analysis.numberStarts first starts) :
    ∃ r ∈ starts, ∃ id, s = { r with delivery := renumbered r.delivery id } := by
  induction starts generalizing first with
  | nil => cases member
  | cons r rest ih =>
    rcases List.mem_cons.mp member with same | later
    · exact ⟨r, List.mem_cons_self, first, same⟩
    · obtain ⟨r', there, numbered⟩ := ih later
      exact ⟨r', List.mem_cons_of_mem _ there, numbered⟩

theorem memNumberStops {first : Nat} {stops : List Stop} {s : Stop}
    (member : s ∈ Analysis.numberStops first stops) :
    ∃ r ∈ stops, ∃ id, s = { r with delivery := renumbered r.delivery id } := by
  induction stops generalizing first with
  | nil => cases member
  | cons r rest ih =>
    rcases List.mem_cons.mp member with same | later
    · exact ⟨r, List.mem_cons_self, first, same⟩
    · obtain ⟨r', there, numbered⟩ := ih later
      exact ⟨r', List.mem_cons_of_mem _ there, numbered⟩

structure Renumbers (d' d : Analysis.Decision) : Prop where
  starts : ∀ s ∈ d'.starts, ∃ r ∈ d.starts, ∃ id, s = { r with delivery := renumbered r.delivery id }
  stops : ∀ s ∈ d'.stops, ∃ r ∈ d.stops, ∃ id, s = { r with delivery := renumbered r.delivery id }

theorem numberRenumbers {d d' : Analysis.Decision} {first : Nat} (numbered : d.number first = .ok d') :
    Renumbers d' d := by
  unfold Analysis.Decision.number at numbered
  cases fits : exactSum first d.total with
  | error _ => rw [fits] at numbered; cases numbered
  | ok _ =>
    rw [fits] at numbered
    cases numbered
    exact ⟨fun s member => memNumberStarts member, fun s member => memNumberStops member⟩

theorem followsNumbered {post : Option (List α) → Analysis.Decision → Prop} {d : Analysis.Decision}
    (idle : ∀ n a, q.move (.reserveIds n) (.ok a) = .idle)
    (h : ∀ d', Renumbers d' d → post k d') : q.Follows side post k (Analysis.numbered d) := by
  unfold Analysis.numbered
  split
  · exact followsPure (h d ⟨fun s member => ⟨s, member, s.delivery.messageId, rfl⟩,
      fun s member => ⟨s, member, s.delivery.messageId, rfl⟩⟩)
  · refine followsBind (followsIdle rfl (idle _) fun first => ?_)
    cases numbered : d.number first with
    | ok d' => exact followsPure (h d' (numberRenumbers numbered))
    | error o => trivial

theorem followsRemove {post : Option (List α) → Nat → Prop} {counts : List CrashCount}
    (idle : ∀ counts a, q.move (.deleteCrashCounts counts) (.ok a) = .idle) (h : ∀ n, post k n) :
    q.Follows side post k (Analysis.remove counts) := by
  unfold Analysis.remove
  split
  · exact followsPure (h 0)
  · refine followsBind (followsLift fun r _ => ?_)
    cases r with
    | ok n =>
      rw [idle]
      refine ⟨allowedIdle k, ?_⟩
      rintro b ⟨⟩
      exact h n
    | error e =>
      rw [q.refused]
      refine ⟨allowedIdle k, ?_⟩
      rintro b ⟨⟩
      exact h 0

theorem proposedStart {policy : Policy} {log : CrashLog} {now : Nat} {v : View} {s : Start}
    (member : s ∈ (Proposal.ofView policy log now v).starts) : starts.guarded s := by
  obtain ⟨i, _, opens⟩ := Proposal.memStarts member
  exact opens.skips.mp

theorem proposedStop {policy : Policy} {log : CrashLog} {now : Nat} {v : View} {s : Stop}
    (member : s ∈ (Proposal.ofView policy log now v).stops) : stops.guarded s := by
  obtain ⟨_, h, _, reason, sendOn, rfl⟩ := Proposal.memStops member
  rfl

theorem draftStarts {g : Analysis.Sight} {policy : Policy} {now : Nat} {s : Start}
    (member : s ∈ (g.draft policy now).starts) : s.key ∉ g.starts ∧ starts.guarded s := by
  obtain ⟨p, proposed, new⟩ := List.mem_flatMap.mp member
  obtain ⟨v, _, rfl⟩ := List.mem_map.mp proposed
  obtain ⟨there, fresh⟩ := List.mem_filter.mp new
  exact ⟨by simpa using fresh, proposedStart there⟩

theorem draftStops {g : Analysis.Sight} {policy : Policy} {now : Nat} {s : Stop}
    (member : s ∈ (g.draft policy now).stops) : s.key ∉ g.stops ∧ stops.guarded s := by
  obtain ⟨p, proposed, new⟩ := List.mem_flatMap.mp member
  obtain ⟨v, _, rfl⟩ := List.mem_map.mp proposed
  obtain ⟨there, fresh⟩ := List.mem_filter.mp new
  exact ⟨by simpa using fresh, proposedStop there⟩

theorem analysisStarts (policy : Policy) (now : Nat) :
    starts.Follows .analyzer (fun _ _ => True) none (Analysis.cycle policy now) := by
  have look : starts.Follows .analyzer (fun k g => ∃ rs, k = some rs ∧ g.starts = rs.map Start.key)
      none (Analysis.look policy now) := by
    refine followsBind (followsFresh (fun _ => rfl) ?_)
    refine followsBind (followsSnapshot (fun _ => rfl) (fun _ => rfl) fun _ => ?_)
    refine followsBind (followsIdle rfl (fun _ => rfl) fun _ => ?_)
    refine followsBind (followsCall rfl fun rs _ => ⟨trivial, ?_⟩)
    refine followsBind (followsIdle rfl (fun _ => rfl) fun _ => ?_)
    exact followsPure ⟨rs, rfl, rfl⟩
  refine followsBind (conductsMono (fun k r found g same => ?_) look)
  obtain ⟨rs, rfl, seen⟩ := found g same
  refine followsBind (followsNumbered (fun _ _ => rfl) fun d renumbers => ?_)
  refine followsBind (followsCall rfl fun _ _ => ⟨fun s member => ?_, ?_⟩)
  · obtain ⟨r, drafted, id, rfl⟩ := renumbers.starts s member
    obtain ⟨fresh, guarded⟩ := draftStarts drafted
    exact ⟨seen ▸ fresh, guarded⟩
  · exact followsBind (followsRemove (fun _ _ => rfl) fun _ => followsPure trivial)

theorem analysisStops (policy : Policy) (now : Nat) :
    stops.Follows .analyzer (fun _ _ => True) none (Analysis.cycle policy now) := by
  have look : stops.Follows .analyzer (fun k g => ∃ rs, k = some rs ∧ g.stops = rs.map Stop.key)
      none (Analysis.look policy now) := by
    refine followsBind (followsFresh (fun _ => rfl) ?_)
    refine followsBind (followsSnapshot (fun _ => rfl) (fun _ => rfl) fun _ => ?_)
    refine followsBind (followsIdle rfl (fun _ => rfl) fun _ => ?_)
    refine followsBind (followsIdle rfl (fun _ => rfl) fun _ => ?_)
    refine followsBind (followsCall rfl fun rs _ => ⟨trivial, ?_⟩)
    exact followsPure ⟨rs, rfl, rfl⟩
  refine followsBind (conductsMono (fun k r found g same => ?_) look)
  obtain ⟨rs, rfl, seen⟩ := found g same
  refine followsBind (followsNumbered (fun _ _ => rfl) fun d renumbers => ?_)
  refine followsBind (followsCall rfl fun _ _ => ⟨fun s member => ?_, ?_⟩)
  · obtain ⟨r, drafted, id, rfl⟩ := renumbers.stops s member
    obtain ⟨fresh, guarded⟩ := draftStops drafted
    exact ⟨seen ▸ fresh, guarded⟩
  · exact followsBind (followsRemove (fun _ _ => rfl) fun _ => followsPure trivial)

theorem markSentRest (d : Delivery) (now : Nat) :
    d.markSent now = { d with sentOn := (d.markSent now).sentOn } := by
  unfold Delivery.markSent
  split <;> rfl

theorem sameStampedStart (now : Nat) (s : Start) : s.Same (Dispatch.stampStart now s) where
  rest := by rw [Dispatch.stampStart, ← markSentRest]
  priority := .refl

theorem sameStampedStop (now : Nat) (s : Stop) : s.Same (Dispatch.stampStop now s) := by
  rw [Stop.Same, Dispatch.stampStop, ← markSentRest]

theorem conductsDeliverAll {A : Type} {message : A → Message} {counter : A → String}
    (sends : ∀ m a, q.move (.send m) (.ok a) = .idle)
    (counts : ∀ m a, q.move (.increment m) (.ok a) = .idle) {l : List A}
    {post : Option (List α) → Dispatch.Answered A → Prop}
    (h : ∀ r : Dispatch.Answered A, r.taken.Sublist l → post k r) :
    q.Conducts side post k (Dispatch.deliverAll message counter l) := by
  induction l generalizing post with
  | nil => exact h ⟨[], 0⟩ .slnil
  | cons a rest ih =>
    have others : ∀ took : Bool, q.Conducts side post k
        ((Dispatch.deliverAll message counter rest).bind fun others => .done (others.add a took)) := by
      intro took
      refine conductsBind (ih fun r sub => ?_)
      cases took with
      | true => exact h _ (sub.cons_cons a)
      | false => exact h _ (sub.cons a)
    have idle : ∀ r, q.move (.send (message a)) r = .idle := by
      rintro (e | b)
      · exact q.refused _ e
      · exact sends _ b
    refine conductsBind (p := Dispatch.deliver (message a) (counter a)) fun r _ => ?_
    rw [idle r]
    refine ⟨allowedIdle k, ?_⟩
    match r with
    | .ok true =>
      intro r' _
      have idle' : q.move (.increment (counter a)) r' = .idle := by
        rcases r' with e | n
        · exact q.refused _ e
        · exact counts _ n
      rw [idle']
      exact ⟨allowedIdle k, others true⟩
    | .ok false => exact others false
    | .error _ => exact others false

theorem followsSend {policy : Policy} {now : Nat} {g : Dispatch.Sight}
    (sends : ∀ m a, q.move (.send m) (.ok a) = .idle)
    (counts : ∀ m a, q.move (.increment m) (.ok a) = .idle)
    {post : Option (List α) → Dispatch.Sent → Prop}
    (h : ∀ t : Dispatch.Sent, t.starts ⊆ g.tried policy now → t.stops ⊆ g.dueStops now → post k t) :
    q.Follows side post k (ExceptT.lift (Dispatch.send policy now g)) :=
  followsLift (conductsBind (conductsDeliverAll sends counts fun _ started =>
    conductsBind (conductsDeliverAll sends counts fun _ stopped =>
      h ⟨_, _, _⟩ started.subset stopped.subset)))

theorem dispatchStarts (policy : Policy) (now : Nat) :
    starts.Follows .dispatcher (fun _ _ => True) none (Dispatch.cycle policy now) := by
  have look : starts.Follows .dispatcher
      (fun k g => k = some g.starts ∧ (g.starts.map Start.key).Nodup)
      none (Dispatch.look policy now) := by
    refine followsBind (followsFresh (fun _ => rfl) ?_)
    refine followsBind (followsCall rfl fun rs distinct => ⟨trivial, ?_⟩)
    refine followsBind (followsIdle rfl (fun _ => rfl) fun _ => ?_)
    refine followsBind (followsSnapshot (fun _ => rfl) (fun _ => rfl) fun _ => ?_)
    exact followsPure ⟨rfl, distinct rs rfl⟩
  refine followsBind (conductsMono (fun k r found g same => ?_) look)
  obtain ⟨rfl, distinct⟩ := found g same
  refine followsBind (followsSend (fun _ _ => rfl) (fun _ _ => rfl) fun t tried _ => ?_)
  refine followsBind (followsBind (followsCall rfl fun _ _ => ⟨fun r done => ?_, ?_⟩))
  · exact Dispatch.doneStartsRead tried done
  refine followsBind (followsIdle rfl (fun _ => rfl) fun _ => ?_)
  refine followsBind (followsCall rfl fun _ _ => ⟨fun r kept => ?_, ?_⟩)
  · obtain ⟨a, read, stays, rfl⟩ := Dispatch.keptStartsRead tried kept
    refine ⟨a, List.mem_filter.mpr ⟨read, decide_eq_true ?_⟩, sameStampedStart now a⟩
    rwa [starts, Rows.memOfKey distinct (fun a => Dispatch.doneStartsRead tried) read]
  · exact followsIdle rfl (fun _ => rfl) fun _ _ _ => trivial

theorem dispatchStops (policy : Policy) (now : Nat) :
    stops.Follows .dispatcher (fun _ _ => True) none (Dispatch.cycle policy now) := by
  have look : stops.Follows .dispatcher
      (fun k g => k = some g.stops ∧ (g.stops.map Stop.key).Nodup)
      none (Dispatch.look policy now) := by
    refine followsBind (followsFresh (fun _ => rfl) ?_)
    refine followsBind (followsIdle rfl (fun _ => rfl) fun _ => ?_)
    refine followsBind (followsCall rfl fun rs distinct => ⟨trivial, ?_⟩)
    refine followsBind (followsSnapshot (fun _ => rfl) (fun _ => rfl) fun _ => ?_)
    exact followsPure ⟨rfl, distinct rs rfl⟩
  refine followsBind (conductsMono (fun k r found g same => ?_) look)
  obtain ⟨rfl, distinct⟩ := found g same
  refine followsBind (followsSend (fun _ _ => rfl) (fun _ _ => rfl) fun t _ due => ?_)
  refine followsBind (followsBind (followsIdle rfl (fun _ => rfl) fun _ => ?_))
  refine followsBind (followsCall rfl fun _ _ => ⟨fun r done => ?_, ?_⟩)
  · exact Dispatch.doneStopsRead due done
  refine followsBind (followsIdle rfl (fun _ => rfl) fun _ => ?_)
  refine followsCall rfl fun _ _ => ⟨fun r kept => ?_, fun _ _ => trivial⟩
  obtain ⟨a, read, stays, rfl⟩ := Dispatch.keptStopsRead due kept
  refine ⟨a, List.mem_filter.mpr ⟨read, decide_eq_true ?_⟩, sameStampedStop now a⟩
  rwa [stops, Rows.memOfKey distinct (fun a => Dispatch.doneStopsRead due) read]

end Queue
end Fleet
