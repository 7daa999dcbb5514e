import Fleet.Proofs.RecordTexts
import Fleet.Proofs.Statements

/-! Settings rendered and read again. A document of sections reads as their tables, a record
that is written as a section is read from it, and so the text of settings that pass their
checks gives them back. -/
namespace Fleet
namespace Toml

namespace Node
variable {es : Entries} {key : String} {m n : Node}

theorem lookupLast (fresh : es.lookup key = none) : (es ++ [(key, n)]).lookup key = some n := by
  simp [List.lookup_append, fresh]

theorem putLast (fresh : es.lookup key = none) : put key n (es ++ [(key, m)]) = es ++ [(key, n)] := by
  induction es with
  | nil => simp [put]
  | cons e es ih =>
    rw [List.lookup_cons] at fresh
    split at fresh
    · cases fresh
    · rename_i other
      have differs : e.1 ≠ key := fun same => by simp [same] at other
      simp [put, differs, ih fresh]

end Node

def statementsOf (s : String × List (String × Toml)) : List Statement :=
  .header [] s.1 :: s.2.map fun p => .pair [] p.1 p.2

def nodesOf (pairs : List (String × Toml)) : Node.Entries := pairs.map fun p => (p.1, .value p.2)

section
variable {root sub : Node.Entries} {current : List String} {name key : String} {v : Toml}
  {pairs : List (String × Toml)}

theorem addHeader (fresh : root.lookup name = none) :
    Layout.add ⟨root, current⟩ (.header [] name) =
      some ⟨root ++ [(name, .table false false [])], [name]⟩ := by
  simp [Layout.add, Node.openTable, Node.descend, fresh]

theorem addPair (fresh : root.lookup name = none) (new : sub.lookup key = none) :
    Layout.add ⟨root ++ [(name, .table false false sub)], [name]⟩ (.pair [] key v) =
      some ⟨root ++ [(name, .table false false (sub ++ [(key, .value v)]))], [name]⟩ := by
  simp [Layout.add, Node.insert, Node.descend, Node.lookupLast fresh, Node.putLast fresh, new]

theorem addPairs (fresh : root.lookup name = none) (distinct : (pairs.map Prod.fst).Nodup)
    (new : ∀ p ∈ pairs, sub.lookup p.1 = none) :
    (pairs.map fun p => Statement.pair [] p.1 p.2).foldlM Layout.add
        ⟨root ++ [(name, .table false false sub)], [name]⟩ =
      some ⟨root ++ [(name, .table false false (sub ++ nodesOf pairs))], [name]⟩ := by
  induction pairs generalizing sub with
  | nil => simp [nodesOf]
  | cons p pairs ih =>
    obtain ⟨apart, distinct⟩ := List.nodup_cons.mp distinct
    have next : ∀ q ∈ pairs, (sub ++ [(p.1, Node.value p.2)]).lookup q.1 = none := by
      intro q member
      simp [List.lookup_append, new q (by simp [member]), List.lookup_cons, namesApart apart member]
    rw [List.map_cons, List.foldlM_cons, addPair fresh (new p (by simp))]
    change (pairs.map _).foldlM Layout.add _ = _
    rw [ih distinct next]
    simp [nodesOf]

theorem addSection (current : List String) (fresh : root.lookup name = none) (distinct : (pairs.map Prod.fst).Nodup) :
    (statementsOf (name, pairs)).foldlM Layout.add ⟨root, current⟩ =
      some ⟨root ++ [(name, .table false false (nodesOf pairs))], [name]⟩ := by
  have new : ∀ p ∈ pairs, ([] : Node.Entries).lookup p.1 = none := fun _ _ => rfl
  have each := addPairs fresh distinct new
  rw [statementsOf, List.foldlM_cons, addHeader fresh]
  exact each

end

structure Tidy (s : String × List (String × Toml)) : Prop where
  name : Bare s.1
  keys : ∀ p ∈ s.2, Bare p.1
  values : ∀ p ∈ s.2, Plain p.2
  distinct : (s.2.map Prod.fst).Nodup

variable {sections : List (String × List (String × Toml))}

theorem addSections (tidy : ∀ s ∈ sections, Tidy s) (distinct : (sections.map Prod.fst).Nodup)
    (l : Layout) (new : ∀ s ∈ sections, l.root.lookup s.1 = none) :
    ∃ current, (sections.flatMap statementsOf).foldlM Layout.add l =
      some ⟨l.root ++ sections.map fun s => (s.1, .table false false (nodesOf s.2)), current⟩ := by
  induction sections generalizing l with
  | nil => exact ⟨l.current, by simp⟩
  | cons s sections ih =>
    obtain ⟨apart, distinct⟩ := List.nodup_cons.mp distinct
    have added := addSection l.current (new s (by simp)) (tidy s (by simp)).distinct
    have next : ∀ t ∈ sections,
        (l.root ++ [(s.1, Node.table false false (nodesOf s.2))]).lookup t.1 = none := by
      intro t member
      simp [List.lookup_append, new t (by simp [member]), List.lookup_cons, namesApart apart member]
    obtain ⟨current, others⟩ := ih (fun t member => tidy t (by simp [member])) distinct
      ⟨l.root ++ [(s.1, .table false false (nodesOf s.2))], [s.1]⟩ next
    refine ⟨current, ?_⟩
    rw [List.flatMap_cons, List.foldlM_append, added]
    change (sections.flatMap statementsOf).foldlM Layout.add _ = _
    rw [others]
    simp

theorem nodesToToml (pairs : List (String × Toml)) : Node.entriesToToml (nodesOf pairs) = pairs := by
  induction pairs with
  | nil => rfl
  | cons p pairs ih => rw [nodesOf, List.map_cons, Node.entriesToToml, ← nodesOf, ih, Node.toToml]

theorem sectionsToToml (sections : List (String × List (String × Toml))) :
    Node.entriesToToml (sections.map fun s => (s.1, .table false false (nodesOf s.2))) =
      sections.map fun s => (s.1, .table s.2) := by
  induction sections with
  | nil => rfl
  | cons s sections ih =>
    rw [List.map_cons, Node.entriesToToml, ih, Node.toToml, nodesToToml, List.map_cons]

theorem tidySimple (tidy : ∀ s ∈ sections, Tidy s) :
    ∀ statements ∈ sections.map statementsOf, ∀ s ∈ statements, Simple s := by
  intro statements listed statement member
  obtain ⟨s, there, rfl⟩ := List.mem_map.mp listed
  rcases List.mem_cons.mp member with rfl | paired
  · exact .header (tidy s there).name
  · obtain ⟨p, inside, rfl⟩ := List.mem_map.mp paired
    exact .pair ((tidy s there).keys p inside) ((tidy s there).values p inside)

theorem readUnmarked {text : List Char} (start : text = [] ∨ ∃ more, text = '[' :: more) :
    read (String.ofList text) = (readStatements (text.length + 1) text).bind fun statements =>
      (layout statements).bind fun l => some (Node.entriesToToml l.root) := by
  rcases start with rfl | ⟨more, rfl⟩
  · rfl
  · rw [read, String.toList_ofList]
    rfl

theorem sectionsStart (sections : List (String × List (String × Toml))) :
    writeSections (sections.map statementsOf) = [] ∨
      ∃ more, writeSections (sections.map statementsOf) = '[' :: more := by
  match sections with
  | [] => exact .inl rfl
  | [_] => exact .inr ⟨_, rfl⟩
  | _ :: _ :: _ => exact .inr ⟨_, rfl⟩

theorem readDocument (tidy : ∀ s ∈ sections, Tidy s) (distinct : (sections.map Prod.fst).Nodup) :
    read (String.ofList (writeSections (sections.map statementsOf))) =
      some (sections.map fun s => (s.1, .table s.2)) := by
  have statements := readSections (tidySimple tidy)
    (Nat.lt_succ_self (writeSections (sections.map statementsOf)).length)
  obtain ⟨current, laid⟩ := addSections tidy distinct ⟨[], []⟩ fun _ _ => rfl
  rw [List.flatMap_def] at laid
  rw [readUnmarked (sectionsStart sections), statements, Option.bind_some, layout, laid]
  exact congrArg some (sectionsToToml sections)

theorem cellPlain {c : Cell} {v : Toml} (written : ofCell? c = some v) : Plain v := by
  unfold ofCell? at written
  split at written
  · cases written
    exact .text _
  · split at written
    · cases written
      exact .whole ‹_›
    · cases written
  · cases written
    exact .flag _
  · cases written

theorem cellRead {kind : Kind} {c : Cell} {v : Toml} (fits : kind.Admits c) (written : ofCell? c = some v) :
    cell? kind v = some c := by
  cases c with
  | text s =>
    cases written
    cases kind <;> first
      | rfl
      | exact fits.elim
  | whole n =>
    simp only [ofCell?] at written
    split at written
    · cases written
      cases kind with
      | whole bound =>
        have within : (0 : Int) ≤ n ∧ (n : Int) ≤ bound := ⟨by omega, by exact_mod_cast fits⟩
        rw [cell?, if_pos within]
        rfl
      | _ => exact fits.elim
    · cases written
  | flag b =>
    cases written
    cases kind <;> first
      | rfl
      | exact fits.elim
  | real x => cases written
  | choice name => cases written
  | tally counts => cases written

variable {slots : List Slot} {cells : List Cell} {values : List Toml} {es : List (String × Toml)}

theorem cellsRead (fits : Shape.Fits slots cells)
    (written : List.Forall₂ (fun c v => ofCell? c = some v) cells values)
    (look : slots.map (fun slot => es.lookup slot.name) = values.map some) :
    (slots.mapM fun slot => cellOr slot (es.lookup slot.name)) = some cells := by
  induction fits generalizing values with
  | nil => rfl
  | cons admits _ ih =>
    obtain _ | @⟨_, v, _, values, first, others⟩ := written
    rw [List.map_cons, List.map_cons, List.cons.injEq] at look
    have cell : cellOr _ (some v) = some _ := cellRead admits first
    rw [List.mapM_cons, look.1, cell, ih others look.2]
    rfl

theorem lookupPaired (distinct : (slots.map Slot.name).Nodup) (size : slots.length = values.length) :
    slots.map (fun slot => ((slots.zip values).map fun p => (p.1.name, p.2)).lookup slot.name) =
      values.map some := by
  induction slots generalizing values with
  | nil =>
    cases values with
    | nil => rfl
    | cons => cases size
  | cons slot slots ih =>
    cases values with
    | nil => cases size
    | cons v values =>
      obtain ⟨apart, distinct⟩ := List.nodup_cons.mp distinct
      have others : slots.map (fun other => (((slot :: slots).zip (v :: values)).map fun p =>
          (p.1.name, p.2)).lookup other.name) = values.map some := by
        rw [← ih distinct (Nat.succ.inj size)]
        refine List.map_congr_left fun other member => ?_
        simp [List.lookup_cons, namesApart apart member]
      rw [List.map_cons, others]
      simp

variable {α : Type} [Record α]

theorem valuesOf (spelled : ∀ c ∈ cells, (ofCell? c).isSome) : ∃ values, cells.mapM ofCell? = some values := by
  induction cells with
  | nil => exact ⟨[], rfl⟩
  | cons c cells ih =>
    obtain ⟨v, first⟩ := Option.isSome_iff_exists.mp (spelled c (by simp))
    obtain ⟨values, others⟩ := ih fun c member => spelled c (by simp [member])
    exact ⟨v :: values, by rw [List.mapM_cons, first, others]; rfl⟩

theorem ofSectionPairs (name : String) {r : α} (written : (Record.toCells r).mapM ofCell? = some values) :
    ofSection? name r =
      some (statementsOf (name, ((Record.slots α).zip values).map fun p => (p.1.name, p.2))) := by
  simp [ofSection?, written, statementsOf]

structure Kept (name : String) (r : α) (pairs : List (String × Toml)) : Prop where
  written : ofSection? name r = some (statementsOf (name, pairs))
  tidy : Tidy (name, pairs)
  read : ∀ {es : List (String × Toml)}, es.lookup name = some (.table pairs) → section? α name es = some r

theorem kept {name : String} {r : α} (bare : Bare name) (keys : ∀ slot ∈ Record.slots α, Bare slot.name)
    (distinct : ((Record.slots α).map Slot.name).Nodup) (fits : Record.InRange r)
    (own : Record.ofCells? (Record.toCells r) = some r)
    (spelled : ∀ c ∈ Record.toCells r, (ofCell? c).isSome) : ∃ pairs, Kept name r pairs := by
  obtain ⟨values, written⟩ := valuesOf spelled
  have paired := ofSectionPairs name written
  have each := mapMEach written
  have size : (Record.slots α).length = values.length := fits.length_eq.trans each.length_eq
  have slots : ((Record.slots α).zip values).map Prod.fst = Record.slots α := List.map_fst_zip (by omega)
  refine ⟨_, paired, ⟨bare, ?_, ?_, ?_⟩, ?_⟩
  · intro p member
    obtain ⟨e, paired, rfl⟩ := List.mem_map.mp member
    exact keys e.1 (List.of_mem_zip paired).1
  · intro p member
    obtain ⟨e, paired, rfl⟩ := List.mem_map.mp member
    obtain ⟨c, _, spelled⟩ := Rows.pairedLeft each.flip (List.of_mem_zip paired).2
    exact cellPlain spelled
  · rw [← slots, List.map_map] at distinct
    rw [List.map_map]
    exact distinct
  · intro es found
    rw [section?, found]
    change (List.mapM (m := Option) _ (Record.slots α)).bind _ = _
    rw [cellsRead fits each (lookupPaired distinct size)]
    exact own

end Toml

namespace Settings
open Toml

theorem storeKept (r : StoreSettings) : ∃ pairs, Kept "store" r pairs := by
  refine kept (by decide) (by decide) (by decide) ?_ rfl ?_
  · simp [Record.InRange, Record.slots, Record.toCells, Kind.Admits]
  · simp [Record.toCells, ofCell?]

theorem convergenceKept {r : ConvergenceSettings} (limit : r.sendLimit ≤ Bounds.signed) :
    ∃ pairs, Kept "convergence" r pairs := by
  have bound : r.sendLimit ≤ Bounds.instant := Nat.le_trans limit (by decide)
  refine kept (by decide) (by decide) (by decide) ?_ rfl ?_
  · simp [Record.InRange, Record.slots, Record.toCells, Kind.Admits, bound]
  · simp [Record.toCells, ofCell?, limit]

theorem backoffKept {r : BackoffSettings} (crashes : r.minimumCrashes ≤ Bounds.count) :
    ∃ pairs, Kept "crash_backoff" r pairs := by
  have limit : r.minimumCrashes ≤ Bounds.signed := Nat.le_trans crashes (by decide)
  refine kept (by decide) (by decide) (by decide) ?_ rfl ?_
  · simp [Record.InRange, Record.slots, Record.toCells, Kind.Admits, crashes]
  · simp [Record.toCells, ofCell?, limit]

theorem transportKept (r : TransportSettings) : ∃ pairs, Kept "transport" r pairs := by
  refine kept (by decide) (by decide) (by decide) ?_ rfl ?_
  · simp [Record.InRange, Record.slots, Record.toCells, Kind.Admits]
  · simp [Record.toCells, ofCell?]

theorem apiKept {r : ApiSettings} (port : r.port ≤ Bounds.port) : ∃ pairs, Kept "api" r pairs := by
  have limit : r.port ≤ Bounds.signed := Nat.le_trans port (by decide)
  refine kept (by decide) (by decide) (by decide) ?_ rfl ?_
  · simp [Record.InRange, Record.slots, Record.toCells, Kind.Admits, port]
  · simp [Record.toCells, ofCell?, limit]

theorem renderReads {s : Settings} {d : Durations} (crashes : s.backoff.minimumCrashes ≤ Bounds.count)
    (limit : s.convergence.sendLimit ≤ Bounds.signed) (port : s.api.port ≤ Bounds.port)
    (valid : s.resolve = .ok d) : ∃ text, s.render = .ok text ∧ ofText text = .ok s := by
  obtain ⟨store, keptStore⟩ := storeKept s.store
  obtain ⟨convergence, keptConvergence⟩ := convergenceKept limit
  obtain ⟨backoff, keptBackoff⟩ := backoffKept crashes
  obtain ⟨transport, keptTransport⟩ := transportKept s.transport
  obtain ⟨api, keptApi⟩ := apiKept port
  obtain ⟨sections, listed⟩ : ∃ sections, sections = [("store", store), ("convergence", convergence),
    ("crash_backoff", backoff), ("transport", transport), ("api", api)] := ⟨_, rfl⟩
  have tidy : ∀ part ∈ sections, Tidy part := by
    simpa [listed] using ⟨keptStore.tidy, keptConvergence.tidy, keptBackoff.tidy, keptTransport.tidy,
      keptApi.tidy⟩
  have document := readDocument tidy (by simp [listed])
  have rendered : s.render = .ok (String.ofList (writeSections (sections.map statementsOf))) := by
    rw [render, sections?, keptStore.written, keptConvergence.written, keptBackoff.written,
      keptTransport.written, keptApi.written, listed]
    rfl
  have parsed : parse? (String.ofList (writeSections (sections.map statementsOf))) = some s := by
    rw [parse?, document, listed]
    simp [keptStore.read, keptConvergence.read, keptBackoff.read, keptTransport.read, keptApi.read,
      List.lookup_cons]
  refine ⟨_, rendered, ?_⟩
  rw [ofText, parsed]
  exact congrArg (Except.map fun _ => s) valid

def quotedSettings : Settings where
  store := ⟨"'''\"\"\"\"\\\n\r\n\t\x00\x7f''\"\"", "30s", " 60s\n"⟩
  convergence := ⟨"+30", "10s", "500ms", 9223372036854775807⟩
  backoff := ⟨4294967295, "30s", "16m", "32m"⟩
  transport := ⟨"''\"", "5s"⟩
  api := ⟨65535⟩

theorem quotedSettingsRead : ∃ text,
    quotedSettings.render = .ok text ∧ ofText text = .ok quotedSettings := by
  obtain ⟨d, valid⟩ : ∃ d, quotedSettings.resolve = .ok d := ⟨_, rfl⟩
  exact renderReads (by decide) (by decide) (by decide) valid

end Settings
end Fleet
