import Fleet.Proofs.Outlines
import Fleet.Proofs.Records
import Fleet.Record.Freshness
import Fleet.Record.Message

/-! Records and their JSON text. Each cell is read from the value it is written as, each slot
is found under its name, and so a record comes back as it settles: the same record, unless it
holds floating values. Whole numbers have to lie in the ranges of their slots. -/
namespace Fleet
open Json (Outline escaped)

namespace Table
variable {κ α : Type} [Ord κ] [Std.TransOrd κ] [Std.LawfulEqOrd κ] {k : κ} {v : α} {l : List (κ × α)}

omit [Std.LawfulEqOrd κ] in
theorem placeLast (above : ∀ e ∈ l, compare e.1 k = .lt) : place k v l = l ++ [(k, v)] := by
  induction l with
  | nil => rfl
  | cons e l ih =>
    have behind : compare k e.1 = .gt := Std.OrientedCmp.gt_iff_lt.mpr (above e (by simp))
    simp [place, behind, ih fun e member => above e (by simp [member])]

theorem insertEach (t : Table κ α) (ascending : (t.entries ++ l).Pairwise fun a b => compare a.1 b.1 = .lt) :
    (l.foldl (fun t e => t.insert e.1 e.2) t).entries = t.entries ++ l := by
  induction l generalizing t with
  | nil => simp
  | cons e l ih =>
    have above : ∀ b ∈ t.entries, compare b.1 e.1 = .lt :=
      fun b member => (List.pairwise_append.mp ascending).2.2 b member e (by simp)
    have placed : (t.insert e.1 e.2).entries = t.entries ++ [e] := placeLast above
    rw [List.foldl_cons, ih, placed, List.append_assoc]
    · rfl
    · rwa [placed, List.append_assoc]

theorem ofEntries (t : Table κ α) : t.entries.foldl (fun t e => t.insert e.1 e.2) empty = t := by
  have entries := insertEach (l := t.entries) empty t.ascending
  cases made : t.entries.foldl (fun t e => t.insert e.1 e.2) empty
  rw [made] at entries
  cases t
  simpa [empty] using entries

def Within (t : Table Nat Nat) : Prop := ∀ e ∈ t.entries, e.1 ≤ Bounds.count ∧ e.2 ≤ Bounds.count

end Table

theorem namesApart {α : Type} {name : α → String} {l : List α} {k : String} (apart : k ∉ l.map name)
    {a : α} (member : a ∈ l) : (name a == k) = false := by
  rw [beq_eq_false_iff_ne]
  rintro rfl
  exact apart (List.mem_map_of_mem member)

def Kind.Admits : Kind → Cell → Prop
  | .text, .text _ => True
  | .whole bound, .whole n => n ≤ bound
  | .real, .real _ => True
  | .flag, .flag _ => True
  | .choice names, .choice name => name ∈ names
  | .tally, .tally counts => counts.Within
  | _, _ => False

namespace Kind

theorem readTextWritten (s : String) : readText (escaped s) = .ok s := by
  simp [readText, Json.decodeQuoted]

theorem readWholeWritten {bound n : Nat} (fits : n ≤ bound) :
    readWhole bound (.ofJson (.nat n)) = .ok n := by
  have read : (Numeral.ofNat n).toNat? bound = some n := Numeral.toNatOfNat fits
  simp [Json.nat, Outline.ofJson, readWhole, read]

theorem readRealWritten {x y : Binary64} (reread : x.reread = some y) :
    Kind.real.read (.ofJson (.real x)) = .ok (.real y) := by
  unfold Binary64.reread at reread
  split at reread
  · rename_i finite
    simp [Json.real, finite, Outline.ofJson, read, reread]
  · cases reread

theorem readChoiceWritten {names : List String} {s : String} (known : s ∈ names) :
    readChoice names (.ofJson (.text s)) = .ok s := by
  rw [Outline.ofJson, readChoice, readTextWritten]
  exact if_pos known

theorem escapeDigit {c : Char} (digit : c.isDigit = true) : Json.escapeChar c = [c] := by
  have first : 48 ≤ c.toNat := by
    simp only [Char.isDigit, Bool.and_eq_true, decide_eq_true_eq] at digit
    exact digit.1
  unfold Json.escapeChar
  split <;> first
    | cases digit
    | exact if_neg (by omega)

theorem escapedDigits (n : Nat) : escaped (String.ofList (Nat.toDigits 10 n)) = Nat.toDigits 10 n := by
  rw [escaped, String.toList_ofList]
  have plain := fun c member => escapeDigit (Numeral.decimalDigits n c member)
  generalize Nat.toDigits 10 n = l at plain
  induction l with
  | nil => rfl
  | cons c l ih =>
    rw [List.flatMap_cons, plain c (by simp), ih fun c member => plain c (by simp [member])]
    rfl

theorem keyIndexWritten {n : Nat} (fits : n ≤ Bounds.count) :
    keyIndex? (escaped (String.ofList (Nat.toDigits 10 n))) = some n := by
  have ends : EndsWord Char.isDigit [] := endsWordNil
  have lexed := Numeral.lexWholeDigits n ends
  rw [List.append_nil] at lexed
  simp [keyIndex?, escapedDigits, lexed, fits]

def readEntry (t : Table Nat Nat) (entry : List Char × Outline) : Except Json.Fault (Table Nat Nat) :=
  match keyIndex? entry.1 with
  | some k => do
      let n ← readWhole Bounds.count entry.2
      .ok (t.insert k n)
  | none => .error .malformed

theorem readTallyClosed (members : List (List Char × Outline)) :
    readTally members .closed = members.foldlM readEntry .empty := by
  change (members.foldlM readEntry .empty >>= fun counts => .ok counts) = _
  exact bind_pure _

theorem readEntries {l : List (Nat × Nat)} (fits : ∀ e ∈ l, e.1 ≤ Bounds.count ∧ e.2 ≤ Bounds.count)
    (t : Table Nat Nat) :
    (Outline.ofMembers (l.map fun e => (String.ofList (Nat.toDigits 10 e.1), .nat e.2))).foldlM
      readEntry t = .ok (l.foldl (fun t e => t.insert e.1 e.2) t) := by
  induction l generalizing t with
  | nil => rfl
  | cons e l ih =>
    obtain ⟨index, count⟩ := fits e (by simp)
    have entry : readEntry t (escaped (String.ofList (Nat.toDigits 10 e.1)), .ofJson (.nat e.2)) =
        .ok (t.insert e.1 e.2) := by
      simp only [readEntry, keyIndexWritten index, readWholeWritten count]
      rfl
    rw [List.map_cons, Outline.ofMembers, List.foldlM_cons, entry, List.foldl_cons]
    exact ih (fun e member => fits e (by simp [member])) (t.insert e.1 e.2)

theorem readTallyWritten {counts : Table Nat Nat} (fits : Kind.tally.Admits (.tally counts)) :
    Kind.tally.read (.ofJson (Cell.tally counts).json) = .ok (.tally counts) := by
  have entries := readEntries fits Table.empty
  rw [Table.ofEntries] at entries
  rw [Cell.json, Outline.ofJson, read, readTallyClosed, entries]
  rfl

theorem readWritten {kind : Kind} {c a : Cell} (fits : kind.Admits c) (settled : c.settle = some a) :
    kind.read (.ofJson c.json) = .ok a := by
  cases c with
  | text s =>
    cases settled
    cases kind <;> first
      | exact congrArg (Except.map Cell.text) (readTextWritten s)
      | exact fits.elim
  | whole n =>
    cases settled
    cases kind <;> first
      | exact congrArg (Except.map Cell.whole) (readWholeWritten fits)
      | exact fits.elim
  | real x =>
    obtain ⟨y, reread, rfl⟩ := Option.map_eq_some_iff.mp settled
    cases kind <;> first
      | exact readRealWritten reread
      | exact fits.elim
  | flag b =>
    cases settled
    cases kind <;> first
      | rfl
      | exact fits.elim
  | choice name =>
    cases settled
    cases kind <;> first
      | exact congrArg (Except.map Cell.choice) (readChoiceWritten fits)
      | exact fits.elim
  | tally counts =>
    cases settled
    cases kind <;> first
      | exact readTallyWritten fits
      | exact fits.elim

end Kind

namespace Shape

theorem ofMembersWritten (slots : List Slot) (cells : List Cell) :
    Outline.ofMembers ((slots.zip cells).map fun (slot, c) => (slot.name, c.json)) =
      (slots.zip cells).map fun e => (escaped e.1.name, .ofJson e.2.json) := by
  induction slots.zip cells with
  | nil => rfl
  | cons e l ih => rw [List.map_cons, Outline.ofMembers, ih, List.map_cons]

variable {all slots : List Slot} {cells settled : List Cell}

abbrev Fits (slots : List Slot) (cells : List Cell) : Prop :=
  List.Forall₂ (fun (slot : Slot) c => slot.kind.Admits c) slots cells

structure Filled (slots : List Slot) (settled : List Cell) (found found' : List (String × Cell)) : Prop where
  cells : slots.map (fun slot => found'.lookup slot.name) = settled.map some
  others : ∀ name ∉ slots.map Slot.name, found'.lookup name = found.lookup name

theorem readMembersWritten (fits : Fits slots cells)
    (settles : List.Forall₂ (fun (c : Cell) a => c.settle = some a) cells settled)
    (known : ∀ slot ∈ slots, all.find? (·.name = slot.name) = some slot)
    (distinct : (slots.map Slot.name).Nodup) (found : List (String × Cell))
    (fresh : ∀ slot ∈ slots, found.lookup slot.name = none) :
    ∃ found', readMembers all found
      ((slots.zip cells).map fun e => (escaped e.1.name, .ofJson e.2.json)) = .ok found' ∧
      Filled slots settled found found' := by
  induction fits generalizing settled found with
  | nil =>
    cases settles
    exact ⟨found, rfl, rfl, fun _ _ => rfl⟩
  | @cons slot c slots cells admits fits ih =>
    obtain _ | @⟨_, a, _, settled, settles, others⟩ := settles
    obtain ⟨apart, distinct⟩ := List.nodup_cons.mp distinct
    have free : found.lookup slot.name = none := fresh slot (by simp)
    have later : ∀ other ∈ slots, ((slot.name, a) :: found).lookup other.name = none := by
      intro other member
      rw [List.lookup_cons, namesApart apart member]
      exact fresh other (by simp [member])
    obtain ⟨found', read, filled⟩ := ih others (fun other member => known other (by simp [member]))
      distinct ((slot.name, a) :: found) later
    refine ⟨found', ?_, ?_, ?_⟩
    · have there := known slot (by simp)
      have cell := Kind.readWritten admits settles
      simp only [List.zip_cons_cons, List.map_cons, readMembers, Kind.readTextWritten, bind, Except.bind,
        there, free, cell, read]
      rfl
    · have head : found'.lookup slot.name = some a := by
        rw [filled.others _ apart, List.lookup_cons, beq_self_eq_true]
      rw [List.map_cons, filled.cells, head]
      rfl
    · intro name other
      rw [List.map_cons, List.mem_cons, not_or] at other
      rw [filled.others name other.2, List.lookup_cons, beq_eq_false_iff_ne.mpr other.1]

theorem slotNamed (distinct : (slots.map Slot.name).Nodup) {slot : Slot} (member : slot ∈ slots) :
    slots.find? (·.name = slot.name) = some slot := by
  have there : (slots.find? (·.name = slot.name)).isSome :=
    List.find?_isSome.mpr ⟨slot, member, decide_eq_true rfl⟩
  obtain ⟨other, found⟩ := Option.isSome_iff_exists.mp there
  have same : other.name = slot.name := by simpa using List.find?_some found
  rw [found, List.inj_on_of_nodup_map distinct (List.mem_of_find?_eq_some found) member same]

theorem fallbacksUnused {found : List (String × Cell)}
    (cells : slots.map (fun slot => found.lookup slot.name) = settled.map some) :
    (slots.mapM fun slot => orFallback slot (found.lookup slot.name)) = .ok settled := by
  induction slots generalizing settled with
  | nil =>
    cases settled with
    | nil => rfl
    | cons => cases cells
  | cons slot slots ih =>
    cases settled with
    | nil => cases cells
    | cons a settled =>
      rw [List.map_cons, List.map_cons, List.cons.injEq] at cells
      rw [List.mapM_cons, cells.1, ih cells.2]
      rfl

theorem readWritten (fits : Fits slots cells)
    (settles : cells.mapM Cell.settle = some settled) (distinct : (slots.map Slot.name).Nodup) :
    read slots (.ofJson (write slots cells)) = .ok settled := by
  have known : ∀ slot ∈ slots, slots.find? (·.name = slot.name) = some slot :=
    fun slot member => slotNamed distinct member
  obtain ⟨found, members, filled⟩ := readMembersWritten fits (mapMEach settles) known distinct [] fun _ _ => rfl
  rw [write, Outline.ofJson, ofMembersWritten, read, members]
  exact fallbacksUnused filled.cells

end Shape

namespace Record
variable {α : Type} [Record α]

def InRange (r : α) : Prop := Shape.Fits (slots α) (toCells r)

theorem decodeEncode {r a : α} (distinct : ((slots α).map Slot.name).Nodup) (fits : InRange r)
    (settled : settle r = some a) : decode (encode r) = .ok a := by
  obtain ⟨cells, settles, made⟩ := Option.bind_eq_some_iff.mp settled
  have read := Shape.readWritten fits settles distinct
  rw [decode, encode, Json.toText, String.toList_ofList, Outline.ofTextCompact]
  simp only [ofOutline, toJson, read, bind, Except.bind, made]
  rfl

structure Survives (r : α) : Prop where
  text : decode (encode r) = .ok r
  row : (Row.held r).read = .ok r

theorem survives {r : α} (distinct : ((slots α).map Slot.name).Nodup) (fits : InRange r)
    (settled : settle r = some r) : Survives r :=
  ⟨decodeEncode distinct fits settled, by rw [Row.read, settled]⟩

end Record

@[simp] theorem Freshness.settle (f : Freshness) : Record.settle f = some f := rfl

@[simp] theorem StartMessage.settle (m : StartMessage) : Record.settle m = some m := rfl

@[simp] theorem StopMessage.settle (m : StopMessage) : Record.settle m = some m := rfl

theorem Spec.inRange {s : Spec} :
    Record.InRange s ↔ s.instances ≤ Bounds.count ∧ s.updatedAt ≤ Bounds.instant := by
  have state : s.state.name ∈ RunState.all.map RunState.name := by cases s.state <;> decide
  have package : s.package.name ∈ PackageState.all.map PackageState.name := by cases s.package <;> decide
  simp [Record.InRange, Record.slots, Record.toCells, Kind.Admits, state, package]

theorem Heartbeat.inRange {h : Heartbeat} :
    Record.InRange h ↔ h.index ≤ Bounds.count ∧ h.reportedAt ≤ Bounds.instant := by
  have state : h.state.name ∈ InstanceState.all.map InstanceState.name := by cases h.state <;> decide
  simp [Record.InRange, Record.slots, Record.toCells, Kind.Admits, state]

theorem CrashCount.inRange {c : CrashCount} :
    Record.InRange c ↔ c.index ≤ Bounds.count ∧ c.count ≤ Bounds.count ∧ c.createdAt ≤ Bounds.instant := by
  simp [Record.InRange, Record.slots, Record.toCells, Kind.Admits]

theorem Freshness.inRange {f : Freshness} :
    Record.InRange f ↔ f.desiredAt ≤ Bounds.instant ∧ f.actualAt ≤ Bounds.instant := by
  simp [Record.InRange, Record.slots, Record.toCells, Kind.Admits]

theorem StartMessage.inRange {m : StartMessage} : Record.InRange m ↔
    m.index ≤ Bounds.count ∧ m.messageId ≤ Bounds.instant ∧ m.running.Within := by
  simp [Record.InRange, Record.slots, Record.toCells, Kind.Admits]

theorem StopMessage.inRange {m : StopMessage} : Record.InRange m ↔
    m.index ≤ Bounds.count ∧ m.messageId ≤ Bounds.instant ∧ m.running.Within := by
  simp [Record.InRange, Record.slots, Record.toCells, Kind.Admits]

theorem Stop.inRange {s : Stop} : Record.InRange s ↔
    s.index ≤ Bounds.count ∧ s.delivery.messageId ≤ Bounds.instant ∧
      s.delivery.sendOn ≤ Bounds.instant ∧ s.delivery.sentOn ≤ Bounds.instant ∧
      s.delivery.keepAlive ≤ Bounds.instant := by
  have reason : s.reason.name ∈ StopReason.all.map StopReason.name := by cases s.reason <;> decide
  simp [Record.InRange, Record.slots, Record.toCells, Kind.Admits, reason]

theorem recordsSurvive :
    (∀ s : Spec, s.instances ≤ Bounds.count → s.updatedAt ≤ Bounds.instant → Record.Survives s) ∧
    (∀ h : Heartbeat, h.index ≤ Bounds.count → h.reportedAt ≤ Bounds.instant → Record.Survives h) ∧
    (∀ c : CrashCount, c.index ≤ Bounds.count → c.count ≤ Bounds.count →
      c.createdAt ≤ Bounds.instant → Record.Survives c) ∧
    (∀ s : Stop, s.index ≤ Bounds.count → s.delivery.messageId ≤ Bounds.instant →
      s.delivery.sendOn ≤ Bounds.instant → s.delivery.sentOn ≤ Bounds.instant →
      s.delivery.keepAlive ≤ Bounds.instant → Record.Survives s) ∧
    (∀ f : Freshness, f.desiredAt ≤ Bounds.instant → f.actualAt ≤ Bounds.instant → Record.Survives f) ∧
    (∀ m : StartMessage, m.index ≤ Bounds.count → m.messageId ≤ Bounds.instant → m.running.Within →
      Record.Survives m) ∧
    (∀ m : StopMessage, m.index ≤ Bounds.count → m.messageId ≤ Bounds.instant → m.running.Within →
      Record.Survives m) := by
  refine ⟨?_, ?_, ?_, ?_, ?_, ?_, ?_⟩
  · intro s instances updated
    exact Record.survives (by decide) (Spec.inRange.mpr ⟨instances, updated⟩) (Spec.settle s)
  · intro h index reported
    exact Record.survives (by decide) (Heartbeat.inRange.mpr ⟨index, reported⟩) (Heartbeat.settle h)
  · intro c index count created
    exact Record.survives (by decide) (CrashCount.inRange.mpr ⟨index, count, created⟩) (CrashCount.settle c)
  · intro s index message sendOn sentOn keepAlive
    exact Record.survives (by decide) (Stop.inRange.mpr ⟨index, message, sendOn, sentOn, keepAlive⟩)
      (Stop.settle s)
  · intro f desired actual
    exact Record.survives (by decide) (Freshness.inRange.mpr ⟨desired, actual⟩) (Freshness.settle f)
  · intro m index message running
    exact Record.survives (by decide) (StartMessage.inRange.mpr ⟨index, message, running⟩)
      (StartMessage.settle m)
  · intro m index message running
    exact Record.survives (by decide) (StopMessage.inRange.mpr ⟨index, message, running⟩)
      (StopMessage.settle m)

theorem oddNamesSurvive :
    let odd : App := ⟨"\"a\\\x01\n\t\x7f", "\\u0041😀"⟩
    let full : Table Nat Nat := .ofList [(0, 3), (7, 4294967295), (4294967295, 1)]
    Record.Survives (Spec.mk odd 4294967295 .stopped .failed 18446744073709551615) ∧
    Record.Survives (Heartbeat.mk odd 4294967295 "\x00\"" .evacuating 18446744073709551615) ∧
    Record.Survives (CrashCount.mk odd 0 4294967295 18446744073709551615) ∧
    Record.Survives (Stop.mk odd 3 "\\" .evacuationComplete ⟨18446744073709551615, 1, 0, 30, true⟩) ∧
    Record.Survives (Freshness.mk 0 18446744073709551615) ∧
    Record.Survives (StartMessage.mk odd 0 18446744073709551615 full) ∧
    Record.Survives (StopMessage.mk odd 4294967295 "/\x1f" true 1 full) := by
  intro odd full
  have running : full.Within := by
    unfold Table.Within
    decide
  obtain ⟨spec, heartbeat, count, stop, freshness, start, stopped⟩ := recordsSurvive
  exact ⟨spec _ (by decide) (by decide), heartbeat _ (by decide) (by decide),
    count _ (by decide) (by decide) (by decide),
    stop _ (by decide) (by decide) (by decide) (by decide) (by decide),
    freshness _ (by decide) (by decide), start _ (by decide) (by decide) running,
    stopped _ (by decide) (by decide) running⟩

end Fleet
