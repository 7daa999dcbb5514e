import Mathlib.Data.Int.Order.Basic
import Mathlib.Data.Nat.Basic
import Fleet.Proofs.DispatchOutcome

/-! Which of the pending starts a dispatch cycle tries when more of them are ready than its
limit allows: as many as the limit allows, none of them behind one that is held back. The
starts come in an order: first by priority, then by when they are due, then by message id. -/
namespace Fleet

def Binary64.Below (x y : Binary64) : Prop :=
  match x.negative, y.negative with
  | true, false => True
  | false, true => False
  | false, false => x.magnitude < y.magnitude
  | true, true => y.magnitude < x.magnitude

theorem Binary64.belowRank {x y : Binary64} : x.Below y ↔ x.rank < y.rank := by
  rcases x with ⟨_ | _, a⟩ <;> rcases y with ⟨_ | _, b⟩ <;>
    simp only [Below, rank, if_true, Bool.false_eq_true, if_false, true_iff, false_iff] <;> omega

def Start.Precedes (a b : Start) : Prop :=
  b.priority.Below a.priority ∨ a.priority = b.priority ∧
    (a.delivery.sendOn < b.delivery.sendOn ∨ a.delivery.sendOn = b.delivery.sendOn ∧
      a.delivery.messageId ≤ b.delivery.messageId)

theorem Start.precedesRank {a b : Start} : a.Precedes b ↔
    b.priority.rank < a.priority.rank ∨ a.priority.rank = b.priority.rank ∧
      (a.delivery.sendOn < b.delivery.sendOn ∨ a.delivery.sendOn = b.delivery.sendOn ∧
        a.delivery.messageId ≤ b.delivery.messageId) := by
  have same : a.priority = b.priority ↔ a.priority.rank = b.priority.rank :=
    ⟨congrArg _, Binary64.rankInjective⟩
  rw [Precedes, Binary64.belowRank, same]

theorem Start.precedesTotal {a b : Start} (behind : ¬ a.Precedes b) : b.Precedes a := by
  rw [precedesRank] at behind ⊢
  omega

theorem Start.precedesChain {a b c : Start} (one : a.Precedes b) (two : b.Precedes c) :
    a.Precedes c := by
  rw [precedesRank] at one two ⊢
  omega

theorem Start.precedesTie {a b : Start} (one : a.Precedes b) (two : b.Precedes a) :
    a.delivery.messageId = b.delivery.messageId := by
  rw [precedesRank] at one two
  omega

namespace Dispatch
variable {policy : Policy} {now : Nat} {g : Sight}

theorem sendsBeforeIff {a b : Start} : sendsBefore a b = true ↔ a.Precedes b := by
  rw [Start.precedesRank, sendsBefore, Binary64.totalOrder, Ordering.isLE_then_iff_or,
    Ordering.isLE_then_iff_or, Nat.isLE_compare, compare_lt_iff_lt, compare_lt_iff_lt,
    compare_eq_iff_eq, compare_eq_iff_eq]
  omega

structure Ready (d : Delivery) (now : Nat) (rejection : Option Rejection) : Prop where
  unexpired : d.sentOn = 0 ∨ now < after d.sentOn d.keepAlive
  due : d.sendOn ≤ now
  verified : d.skipVerification = true ∨ rejection = none

theorem fateReady {d : Delivery} {rejection : Option Rejection} :
    fate d now rejection = .due ↔ Ready d now rejection := by
  rw [fateDue, Delivery.isExpired, Delivery.isSent, Delivery.isDue, decide_eq_true_iff]
  constructor
  · rintro ⟨unexpired, due, verified⟩
    exact ⟨by simpa [Decidable.imp_iff_not_or] using unexpired, due, verified⟩
  · intro h
    exact ⟨by simpa [Decidable.imp_iff_not_or] using h.unexpired, h.due, h.verified⟩

instance (d : Delivery) (now : Nat) (rejection : Option Rejection) : Decidable (Ready d now rejection) :=
  decidable_of_iff _ fateReady

namespace Sight

def readyStarts (g : Sight) (now : Nat) : List Start :=
  g.starts.filter fun a => Ready a.delivery now (a.rejection? g.snapshot)

def readyStops (g : Sight) (now : Nat) : List Stop :=
  g.stops.filter fun a => Ready a.delivery now (a.rejection? g.snapshot)

end Sight

theorem dueStopsReady (g : Sight) (now : Nat) : g.dueStops now = g.readyStops now :=
  List.filter_congr fun _ _ => decide_eq_decide.mpr fateReady

theorem dueStartsReady (g : Sight) (now : Nat) : (g.dueStarts now).Perm (g.readyStarts now) := by
  have same : g.startsWith now .due = g.readyStarts now :=
    List.filter_congr fun _ _ => decide_eq_decide.mpr fateReady
  exact same ▸ arrangePerm sendsBefore _

theorem triedOrHeld (g : Sight) (policy : Policy) (now : Nat) :
    g.tried policy now ++ g.heldBack policy now = g.dueStarts now := List.take_append_drop _ _

theorem arrangedPrecedes (l : List Start) : (arrange sendsBefore l).Pairwise Start.Precedes := by
  refine List.Pairwise.imp (fun h => sendsBeforeIff.mp h) (arrangeOrdered (fun a b behind => ?_)
    (fun a b c one two => ?_) _)
  · exact sendsBeforeIff.mpr (Start.precedesTotal (mt sendsBeforeIff.mpr (by simp [behind])))
  · exact sendsBeforeIff.mpr (Start.precedesChain (sendsBeforeIff.mp one) (sendsBeforeIff.mp two))

theorem heldReady {a : Start} (held : a ∈ g.heldBack policy now) :
    a ∈ g.starts ∧ startFate g.snapshot now a = .due := by
  have := (arrangePerm sendsBefore _).mem_iff.mp (List.mem_of_mem_drop held)
  simpa [Sight.startsWith] using this

theorem heldNotTried (distinct : g.starts.Nodup) {a : Start} (held : a ∈ g.heldBack policy now) :
    a ∉ g.tried policy now := by
  have due : (g.dueStarts now).Nodup := (arrangePerm sendsBefore _).nodup_iff.mpr (distinct.filter _)
  rw [← triedOrHeld g policy now] at due
  exact fun tried => (List.disjoint_of_nodup_append due) tried held

structure Selects (policy : Policy) (now : Nat) (g : Sight) (tried held : List Start) : Prop where
  ready : (tried ++ held).Perm (g.readyStarts now)
  within : tried.length = min policy.sendLimit (g.readyStarts now).length
  beyond : held.length =
    (g.readyStarts now).length - min policy.sendLimit (g.readyStarts now).length
  ordered : tried.Pairwise Start.Precedes
  first : ∀ a ∈ tried, ∀ b ∈ held, a.Precedes b

theorem selectsTried (policy : Policy) (now : Nat) (g : Sight) :
    Selects policy now g (g.tried policy now) (g.heldBack policy now) := by
  have due := (dueStartsReady g now).length_eq
  have order : (g.dueStarts now).Pairwise Start.Precedes := arrangedPrecedes _
  rw [← triedOrHeld g policy now] at order
  obtain ⟨ordered, _, first⟩ := List.pairwise_append.mp order
  refine ⟨triedOrHeld g policy now ▸ dueStartsReady g now, ?_, ?_, ordered, first⟩
  · rw [← due, Sight.tried, List.length_take]
  · rw [← due, Sight.heldBack, List.length_drop]
    omega

theorem selectsUnique {tried tried' held held' : List Start}
    (ids : ((g.readyStarts now).map (·.delivery.messageId)).Nodup)
    (one : Selects policy now g tried held) (two : Selects policy now g tried' held') :
    tried = tried' ∧ held.Perm held' := by
  -- With what is held back in order as well, both ways put the same starts in order.
  have perm {t h : List Start} (selects : Selects policy now g t h) :
      (t ++ arrange sendsBefore h).Perm (g.readyStarts now) :=
    ((arrangePerm _ h).append_left t).trans selects.ready
  have order {t h : List Start} (selects : Selects policy now g t h) :
      (t ++ arrange sendsBefore h).Pairwise Start.Precedes :=
    List.pairwise_append.mpr ⟨selects.ordered, arrangedPrecedes h, fun a first b last =>
      selects.first a first b ((arrangePerm _ h).mem_iff.mp last)⟩
  have same := List.Perm.eq_of_pairwise (fun a b here there before behind =>
    List.inj_on_of_nodup_map ids ((perm one).mem_iff.mp here) ((perm two).mem_iff.mp there)
      (Start.precedesTie before behind)) (order one) (order two) ((perm one).trans (perm two).symm)
  obtain ⟨triedSame, heldSame⟩ := List.append_inj same (one.within.trans two.within.symm)
  exact ⟨triedSame, (arrangePerm _ held).symm.trans (heldSame ▸ arrangePerm _ held')⟩

def Room (w : World) (counters : List String) : Prop :=
  ∀ m, w.store.tally m + counters.count m ≤ Bounds.instant

end Dispatch
end Fleet
