import Fleet.Proofs.Analyses
import Fleet.Proofs.Pending

/-! What an analysis cycle does with message ids and pending actions, whatever calls are
refused: the actions that it asks to save have the ids behind the last one in a row, and
nothing becomes pending but these. -/
namespace Fleet

structure Start.Apt (a : Start) : Prop where
  skips : a.delivery.skipVerification = true ↔ a.reason = .evacuating
  missing : a.reason = .missing → a.delivery.keepAlive = 0

namespace Analysis
variable {policy : Policy} {now : Nat} {g : Sight} {d d' : Decision} {last : Nat}

def Decision.given (d : Decision) : List (Place × Delivery) :=
  d.starts.map (fun a => (.start a.key, a.delivery)) ++ d.stops.map fun a => (.stop a.key, a.delivery)

theorem givenLength (d : Decision) : d.given.length = d.total := by
  simp [Decision.given, Decision.total]

theorem numberStartsIds (first : Nat) (l : List Start) :
    (numberStarts first l).map (·.delivery.messageId) = List.range' first l.length := by
  induction l generalizing first with
  | nil => rfl
  | cons a l ih => simp [numberStarts, ih, List.range'_succ]

theorem numberStopsIds (first : Nat) (l : List Stop) :
    (numberStops first l).map (·.delivery.messageId) = List.range' first l.length := by
  induction l generalizing first with
  | nil => rfl
  | cons a l ih => simp [numberStops, ih, List.range'_succ]

theorem numbersIds (numbers : Numbers last d d') :
    d'.given.map (·.2.messageId) = List.range' (last + 1) d'.given.length := by
  rw [givenLength, numbersTotal numbers]
  simp only [Decision.given, List.map_append, List.map_map, Function.comp_def, Decision.total]
  rw [numbers.starts, numbers.stops, numberStartsIds, numberStopsIds, List.range'_append_1]

theorem numberedStart (numbers : Numbers last (g.draft policy now) d) {a : Start} (member : a ∈ d.starts) :
    a.Apt ∧ a.delivery.sentOn = 0 := by
  rw [numbers.starts] at member
  obtain ⟨r, drafted, id, rfl⟩ := Queue.memNumberStarts member
  obtain ⟨p, proposed, new⟩ := List.mem_flatMap.mp drafted
  obtain ⟨v, _, rfl⟩ := List.mem_map.mp proposed
  obtain ⟨i, _, opens⟩ := Proposal.memStarts (List.mem_of_mem_filter new)
  exact ⟨⟨opens.skips, opens.missing⟩, opens.unsent⟩

theorem numberedStop (numbers : Numbers last (g.draft policy now) d) {a : Stop} (member : a ∈ d.stops) :
    a.delivery.skipVerification = false ∧ a.delivery.sentOn = 0 := by
  rw [numbers.stops] at member
  obtain ⟨r, drafted, id, rfl⟩ := Queue.memNumberStops member
  obtain ⟨p, proposed, new⟩ := List.mem_flatMap.mp drafted
  obtain ⟨v, _, rfl⟩ := List.mem_map.mp proposed
  obtain ⟨_, h, _, reason, sendOn, rfl⟩ := Proposal.memStops (List.mem_of_mem_filter new)
  exact ⟨rfl, rfl⟩

theorem givenUnsent (numbers : Numbers last (g.draft policy now) d) :
    ∀ e ∈ d.given, e.2.sentOn = 0 := by
  intro e member
  rcases List.mem_append.mp member with started | stopped
  · obtain ⟨a, there, rfl⟩ := List.mem_map.mp started
    exact (numberedStart numbers there).2
  · obtain ⟨a, there, rfl⟩ := List.mem_map.mp stopped
    exact (numberedStop numbers there).2

structure Assigns (s s' : Store) (given : List (Place × Delivery)) : Prop where
  ids : given.map (·.2.messageId) = List.range' (s.lastId + 1) given.length
  room : s.lastId + given.length ≤ s'.lastId
  unsent : ∀ e ∈ given, e.2.sentOn = 0
  pending : ∀ p d, s'.delivery? p = some d → s.delivery? p = some d ∨ (p, d) ∈ given
  starts : ∀ k a, s'.starts.record? k = some a → s.starts.record? k = some a ∨ a.Apt
  stops : ∀ k a, s'.stops.record? k = some a →
    s.stops.record? k = some a ∨ a.delivery.skipVerification = false

theorem assignsSkip (s : Store) (n : Nat) : Assigns s { s with lastId := s.lastId + n } [] where
  ids := rfl
  room := Nat.le_add_right _ _
  unsent := nofun
  pending _ _ found := .inl found
  starts _ _ record := .inl record
  stops _ _ record := .inl record

theorem assignsRefused {s : Store} (numbers : Numbers s.lastId (g.draft policy now) d) :
    Assigns s { s with lastId := s.lastId + d.total } d.given where
  ids := numbersIds numbers
  room := Nat.le_of_eq (by rw [givenLength])
  unsent := givenUnsent numbers
  pending _ _ found := .inl found
  starts _ _ record := .inl record
  stops _ _ record := .inl record

theorem assignsSaved {s : Store} (numbers : Numbers s.lastId (g.draft policy now) d)
    (gone : List CrashCount) :
    Assigns s ((d.write { s with lastId := s.lastId + d.total }).deleteCrashCounts gone).2 d.given where
  ids := numbersIds numbers
  room := Nat.le_of_eq (by rw [givenLength]; rfl)
  unsent := givenUnsent numbers
  pending p e found := by
    cases p with
    | start k =>
      obtain ⟨a, record, rfl⟩ := Option.map_eq_some_iff.mp found
      rcases Rows.recordPut record with ⟨_, old⟩ | ⟨new, rfl⟩
      · exact .inl (Store.deliveryStart old)
      · exact .inr (List.mem_append_left _ (List.mem_map.mpr ⟨a, new, rfl⟩))
    | stop k =>
      obtain ⟨a, record, rfl⟩ := Option.map_eq_some_iff.mp found
      rcases Rows.recordPut record with ⟨_, old⟩ | ⟨new, rfl⟩
      · exact .inl (Store.deliveryStop old)
      · exact .inr (List.mem_append_right _ (List.mem_map.mpr ⟨a, new, rfl⟩))
  starts k a record := (Rows.recordPut record).imp And.right fun new => (numberedStart numbers new.1).1
  stops k a record := (Rows.recordPut record).imp And.right fun new => (numberedStop numbers new.1).1

theorem analysisAssigns (policy : Policy) (now : Nat) (s : Surroundings) (w : World) :
    Assigns w.store ((cycle policy now).run.run s w).2.store
      ((decisions ((cycle policy now).run.calls s w)).flatMap Decision.given) := by
  have ends := cycleEnds policy now s w
  generalize (cycle policy now).run.run s w = r at *
  generalize decisions _ = asked at *
  cases ends with
  | short n ends => exact assignsSkip w.store n
  | refused e looked numbers =>
    rw [List.flatMap_cons, List.flatMap_nil, List.append_nil]
    exact assignsRefused numbers
  | saved looked numbers served removed =>
    have saved := congrArg Prod.snd removed
    simp only at saved
    rw [List.flatMap_cons, List.flatMap_nil, List.append_nil, ← saved]
    exact assignsSaved numbers _

end Analysis
end Fleet
