import Fleet.Proofs.Chronicle

/-! When an action is tried over a run in which every dispatch ends with its writes
served: never before it is due, and after its first success only while it is kept alive. -/
namespace Fleet
namespace Dispatch
variable {policy : Policy} {now : Nat} {s : Surroundings} {w : World} {g : Sight}

def Sight.trials (g : Sight) (s : Surroundings) (policy : Policy) (now : Nat) :
    List (Place × Delivery × Bool) :=
  s.tries ((g.tried policy now).map (fun a =>
      (.start a.key, a.delivery, s.accepts (startMessage g.snapshot a))) ++
    (g.dueStops now).map fun a => (.stop a.key, a.delivery, s.accepts (stopMessage g.snapshot a)))

theorem trialNotes (g : Sight) (s : Surroundings) (policy : Policy) (now : Nat) :
    (s.tries (g.attempted policy now s.accepts)).map (fun e => Note.tried now e.1.id e.2) =
      (g.trials s policy now).map fun e => .tried now e.2.1.messageId e.2.2 := by
  rw [Sight.trials, Surroundings.triesMap, Surroundings.triesMap, Sight.attempted]
  simp only [attempts, List.map_append, List.map_map, Function.comp_def]
  rfl

theorem memTrials {p : Place} {d : Delivery} {took : Bool} :
    (p, d, took) ∈ g.trials s policy now ↔ "send" ∉ s.failing ∧
      ((∃ a ∈ g.tried policy now, p = .start a.key ∧ d = a.delivery ∧
          took = s.accepts (startMessage g.snapshot a)) ∨
        ∃ a ∈ g.dueStops now, p = .stop a.key ∧ d = a.delivery ∧
          took = s.accepts (stopMessage g.snapshot a)) := by
  unfold Sight.trials Surroundings.tries
  split
  · rename_i refused
    simp [refused]
  · rename_i served
    simp only [List.mem_append, List.mem_map, Prod.mk.injEq, served, not_false_eq_true, true_and]
    refine or_congr ?_ ?_
    · exact exists_congr fun a => and_congr_right fun _ => by simp [eq_comm]
    · exact exists_congr fun a => and_congr_right fun _ => by simp [eq_comm]

theorem readStart {t : Store} (seen : Seen policy now t g) (own : Rows.Own Start.key t.starts)
    {a : Start} (read : a ∈ g.starts) : t.delivery? (.start a.key) = some a.delivery := by
  obtain ⟨r, p, record, rfl⟩ := Rows.startOfScan own seen.starts read
  have found := Store.deliveryStart record
  exact found

theorem readStop {t : Store} (seen : Seen policy now t g) (own : Rows.Own Stop.key t.stops)
    {a : Stop} (read : a ∈ g.stops) : t.delivery? (.stop a.key) = some a.delivery :=
  Store.deliveryStop (Rows.stopOfScan own seen.stops read)

theorem takesOpen {m : Message} : s.takes m = true ↔ "send" ∉ s.failing ∧ s.accepts m = true := by
  simp [Surroundings.takes]

theorem takenStart {a : Start} (took : a ∈ (g.taken s policy now).starts) :
    a ∈ (g.taken s policy now).doneStarts g now ∨
      stampStart now a ∈ (g.taken s policy now).keptStarts now := by
  cases last : a.delivery.fireAndForget with
  | true => exact .inl (List.mem_append_right _ (List.mem_filter.mpr ⟨took, last⟩))
  | false => exact .inr (List.mem_map_of_mem (List.mem_filter.mpr ⟨took, by rw [last]; rfl⟩))

theorem takenStop {a : Stop} (took : a ∈ (g.taken s policy now).stops) :
    a ∈ (g.taken s policy now).doneStops g now ∨
      stampStop now a ∈ (g.taken s policy now).keptStops now := by
  cases last : a.delivery.fireAndForget with
  | true => exact .inl (List.mem_append_right _ (List.mem_filter.mpr ⟨took, last⟩))
  | false => exact .inr (List.mem_map_of_mem (List.mem_filter.mpr ⟨took, by rw [last]; rfl⟩))

section
variable {t : Store} (seen : Seen policy now t g) (ownStarts : Rows.Own Start.key t.starts)
  (ownStops : Rows.Own Stop.key t.stops)
include seen ownStarts ownStops

theorem trialsDistinct : ((g.trials s policy now).map (·.1)).Nodup := by
  have starts : ((g.tried policy now).map Start.key).Nodup := by
    have due : ((g.dueStarts now).map Start.key).Nodup :=
      ((arrangePerm sendsBefore _).map _).nodup_iff.mpr
        ((Rows.ownScanDistinct ownStarts seen.starts).sublist (List.filter_sublist.map _))
    exact due.sublist ((List.take_sublist _ _).map _)
  have stops : ((g.dueStops now).map Stop.key).Nodup :=
    (Rows.ownScanDistinct ownStops seen.stops).sublist (List.filter_sublist.map _)
  unfold Sight.trials Surroundings.tries
  split
  · exact List.nodup_nil
  simp only [List.map_append, List.map_map, Function.comp_def]
  refine List.nodup_append.mpr ⟨?_, ?_, ?_⟩
  · simpa only [List.map_map, Function.comp_def] using starts.map fun _ _ => Place.start.inj
  · simpa only [List.map_map, Function.comp_def] using stops.map fun _ _ => Place.stop.inj
  · intro p one q two
    obtain ⟨a, _, rfl⟩ := List.mem_map.mp one
    obtain ⟨b, _, rfl⟩ := List.mem_map.mp two
    exact nofun

theorem trialsPending {p : Place} {d : Delivery} {took : Bool}
    (member : (p, d, took) ∈ g.trials s policy now) :
    t.delivery? p = some d ∧ d.isExpired now = false ∧ d.sendOn ≤ now := by
  obtain ⟨_, ⟨a, tried, rfl, rfl, _⟩ | ⟨a, due, rfl, rfl, _⟩⟩ := memTrials.mp member
  · obtain ⟨read, fate⟩ := memTried tried
    obtain ⟨current, early, _⟩ := fateDue.mp fate
    exact ⟨readStart seen ownStarts read, current, of_decide_eq_true early⟩
  · obtain ⟨read, fate⟩ := memDueStops.mp due
    obtain ⟨current, early, _⟩ := fateDue.mp fate
    exact ⟨readStop seen ownStops read, current, of_decide_eq_true early⟩

theorem settledPending {metrics : Table String Nat} {p : Place} {d : Delivery}
    (found : (settled now g (g.taken s policy now) { t with metrics }).delivery? p = some d) :
    (t.delivery? p = some d ∧ ∀ e, (p, e, true) ∉ g.trials s policy now) ∨
      ∃ e, t.delivery? p = some e ∧ d = e.markSent now ∧ (p, e, true) ∈ g.trials s policy now := by
  cases p with
  | start k =>
    obtain ⟨a, record, rfl⟩ := Option.map_eq_some_iff.mp found
    rcases Rows.recordPut record with ⟨unkept, old⟩ | ⟨new, rfl⟩
    · obtain ⟨undone, old⟩ := Rows.recordRemove.mp old
      refine .inl ⟨Store.deliveryStart old, fun e member => ?_⟩
      -- If it had been taken, it would have been removed or written.
      obtain ⟨served, ⟨b, tried, same, _, took⟩ | ⟨b, _, same, _⟩⟩ := memTrials.mp member <;>
        cases same
      have took : b ∈ (g.taken s policy now).starts :=
        List.mem_filter.mpr ⟨tried, takesOpen.mpr ⟨served, took.symm⟩⟩
      rcases takenStart took with done | kept
      · exact undone (List.mem_map_of_mem done)
      · exact unkept (List.mem_map.mpr ⟨_, kept, rfl⟩)
    · obtain ⟨b, member, rfl⟩ := List.mem_map.mp new
      obtain ⟨tried, took⟩ := List.mem_filter.mp (List.mem_of_mem_filter member)
      obtain ⟨served, took⟩ := takesOpen.mp took
      exact .inr ⟨b.delivery, readStart seen ownStarts (memTried tried).1, rfl,
        memTrials.mpr ⟨served, .inl ⟨b, tried, rfl, rfl, took.symm⟩⟩⟩
  | stop k =>
    obtain ⟨a, record, rfl⟩ := Option.map_eq_some_iff.mp found
    rcases Rows.recordPut record with ⟨unkept, old⟩ | ⟨new, rfl⟩
    · obtain ⟨undone, old⟩ := Rows.recordRemove.mp old
      refine .inl ⟨Store.deliveryStop old, fun e member => ?_⟩
      obtain ⟨served, ⟨b, _, same, _⟩ | ⟨b, due, same, _, took⟩⟩ := memTrials.mp member <;>
        cases same
      have took : b ∈ (g.taken s policy now).stops :=
        List.mem_filter.mpr ⟨due, takesOpen.mpr ⟨served, took.symm⟩⟩
      rcases takenStop took with done | kept
      · exact undone (List.mem_map_of_mem done)
      · exact unkept (List.mem_map.mpr ⟨_, kept, rfl⟩)
    · obtain ⟨b, member, rfl⟩ := List.mem_map.mp new
      obtain ⟨due, took⟩ := List.mem_filter.mp (List.mem_of_mem_filter member)
      obtain ⟨served, took⟩ := takesOpen.mp took
      exact .inr ⟨b.delivery, readStop seen ownStops (memDueStops.mp due).1, rfl,
        memTrials.mpr ⟨served, .inr ⟨b, due, rfl, rfl, took.symm⟩⟩⟩

end

end Dispatch

def Note.takenAt? (id : Nat) : Note → Option Nat
  | .given _ _ => none
  | .tried now id' taken => if taken && id' = id then some now else none

def takenAt (id : Nat) (notes : List Note) : List Nat := notes.filterMap (Note.takenAt? id)

theorem takenAppend (id : Nat) (notes more : List Note) :
    takenAt id (notes ++ more) = takenAt id notes ++ takenAt id more := List.filterMap_append

theorem takenAtSome {id t : Nat} {note : Note} :
    note.takenAt? id = some t ↔ note = .tried t id true := by
  cases note with
  | given p d => simp [Note.takenAt?]
  | tried now id' taken =>
    simp only [Note.takenAt?, Bool.and_eq_true, decide_eq_true_eq, Option.ite_none_right_eq_some,
      Option.some.injEq, Note.tried.injEq]
    constructor
    · exact fun ⟨⟨took, same⟩, time⟩ => ⟨time, same, took⟩
    · exact fun ⟨time, same, took⟩ => ⟨⟨took, same⟩, time⟩

theorem memTakenAt {id t : Nat} {notes : List Note} :
    t ∈ takenAt id notes ↔ .tried t id true ∈ notes := by
  simp [takenAt, List.mem_filterMap, takenAtSome]

/-- A dispatch ends after all its writes, at a time that can be told from none. -/
def Deed.settles (policy : Policy) (s : Store) : Deed → Bool
  | .dispatch now failing accepts =>
      0 < now && match (Fleet.dispatch policy now { failing, accepts } ⟨s, []⟩).1 with
        | .ok (.error (.unwritten _ _)) => false
        | .ok _ => true
        | .error _ => false
  | .sync _ _ | .flush _ | .reap _ | .analysis _ _ => true

namespace Chronicle

def Timely (before : List Note) (t id : Nat) : Prop :=
  ∃ p d, .given p d ∈ before ∧ d.messageId = id ∧ d.sendOn ≤ t ∧
    ∀ s, (takenAt id before).head? = some s → 0 < d.keepAlive ∧ t < Fleet.after s d.keepAlive

def AllTimely (notes : List Note) : Prop :=
  ∀ before t id taken later, notes = before ++ .tried t id taken :: later → Timely before t id

theorem timelyAppend {notes more : List Note} (old : AllTimely notes)
    (new : ∀ before t id taken later, more = before ++ .tried t id taken :: later →
      Timely (notes ++ before) t id) : AllTimely (notes ++ more) := by
  intro before t id taken later split
  rcases List.append_eq_append_iff.mp split with ⟨l, rfl, rest⟩ | ⟨l, rfl, rest⟩
  · exact new l t id taken later rest
  · cases l with
    | nil => simpa using new [] t id taken later rest.symm
    | cons note l =>
      obtain ⟨rfl, _⟩ := List.cons.inj rest
      exact old before t id taken l rfl

def Stamped (s : Store) (notes : List Note) : Prop :=
  ∀ p d, s.delivery? p = some d →
    (takenAt d.messageId notes).head? = if d.sentOn = 0 then none else some d.sentOn

structure Punctual (c : Chronicle) : Prop where
  regular : c.store.Regular
  kept : Kept c.store c.given
  timely : AllTimely c.notes
  stamped : Stamped c.store c.notes

variable {c : Chronicle}

theorem memGiven {p : Place} {d : Delivery} : (p, d) ∈ c.given ↔ .given p d ∈ c.notes := by
  simp only [given, List.mem_filterMap]
  constructor
  · rintro ⟨note, member, found⟩
    cases note with
    | given p' d' => cases found; exact member
    | tried now id taken => cases found
  · exact fun member => ⟨_, member, rfl⟩

theorem triedGiven (timely : AllTimely c.notes) {t id : Nat} {taken : Bool}
    (member : .tried t id taken ∈ c.notes) : id ∈ c.givenIds := by
  obtain ⟨before, later, split⟩ := List.append_of_mem member
  obtain ⟨p, d, given, rfl, _⟩ := timely before t id taken later split
  have noted : .given p d ∈ c.notes := split ▸ List.mem_append_left _ given
  exact List.mem_map.mpr ⟨_, memGiven.mpr noted, rfl⟩

def noteOf (now : Nat) (e : Place × Delivery × Bool) : Note := .tried now e.2.1.messageId e.2.2

theorem memNotes {now t id : Nat} {taken : Bool} {l : List (Place × Delivery × Bool)} :
    .tried t id taken ∈ l.map (noteOf now) ↔
      t = now ∧ ∃ p d, (p, d, taken) ∈ l ∧ d.messageId = id := by
  simp only [List.mem_map, noteOf, Note.tried.injEq, Prod.exists]
  constructor
  · rintro ⟨p, d, taken, member, rfl, same, rfl⟩
    exact ⟨rfl, p, d, member, same⟩
  · rintro ⟨rfl, p, d, member, same⟩
    exact ⟨p, d, taken, member, rfl, same, rfl⟩

theorem headTaken {now : Nat} {l : List (Place × Delivery × Bool)} {p : Place} {d : Delivery}
    (took : (p, d, true) ∈ l) : (takenAt d.messageId (l.map (noteOf now))).head? = some now := by
  have here : now ∈ takenAt d.messageId (l.map (noteOf now)) :=
    memTakenAt.mpr (memNotes.mpr ⟨rfl, p, d, took, rfl⟩)
  cases times : takenAt d.messageId (l.map (noteOf now)) with
  | nil => rw [times] at here; cases here
  | cons t rest =>
    have first : t ∈ takenAt d.messageId (l.map (noteOf now)) := times ▸ List.mem_cons_self
    rw [List.head?_cons, (memNotes.mp (memTakenAt.mp first)).1]

section
variable {policy : Policy} {now : Nat} {s : Surroundings} {g : Dispatch.Sight}
  (punctual : c.Punctual) (seen : Dispatch.Seen policy now c.store g)
include punctual seen

theorem trialIds : ((g.trials s policy now).map (·.2.1.messageId)).Nodup := by
  have places := Dispatch.trialsDistinct (s := s) seen punctual.regular.starts
    punctual.regular.stops
  refine List.pairwise_map.mpr ((List.pairwise_map.mp places).imp_of_mem ?_)
  intro e e' member member' differ
  exact keptApart punctual.kept differ
    (Dispatch.trialsPending seen punctual.regular.starts punctual.regular.stops member).1
    (Dispatch.trialsPending seen punctual.regular.starts punctual.regular.stops member').1

theorem trialTimely {before later : List Note} {t id : Nat} {taken : Bool}
    (split : (g.trials s policy now).map (noteOf now) =
      before ++ .tried t id taken :: later) : Timely (c.notes ++ before) t id := by
  obtain ⟨first, rest, all, rfl, second⟩ := List.map_eq_append_iff.mp split
  obtain ⟨⟨p, d, took⟩, rest, rfl, note, _⟩ := List.map_eq_cons_iff.mp second
  cases note
  have ids := trialIds (s := s) punctual seen
  have member : (p, d, took) ∈ g.trials s policy now :=
    all ▸ List.mem_append_right _ List.mem_cons_self
  obtain ⟨found, current, due⟩ :=
    Dispatch.trialsPending seen punctual.regular.starts punctual.regular.stops member
  obtain ⟨d₀, given, same⟩ := punctual.kept.known p d found
  have alive : d.keepAlive = d₀.keepAlive := by rw [same]
  -- What was tried earlier in the cycle is pending elsewhere, so its id is another.
  have apart : takenAt d.messageId (first.map (noteOf now)) = [] := by
    refine List.eq_nil_iff_forall_not_mem.mpr fun t taken => ?_
    obtain ⟨_, q, e, earlier, twice⟩ := memNotes.mp (memTakenAt.mp taken)
    rw [all, List.map_append, List.nodup_append] at ids
    exact ids.2.2 _ (List.mem_map_of_mem earlier) _ List.mem_cons_self twice
  refine ⟨p, d₀, List.mem_append_left _ (memGiven.mp given), ?_, ?_, fun since first => ?_⟩
  · rw [same]
  · rw [same] at due
    exact due
  · rw [takenAppend, apart, List.append_nil, punctual.stamped p d found] at first
    split at first
    · cases first
    · rename_i isSent
      cases first
      rw [← alive]
      refine ⟨(punctual.kept.sent p d found isSent).1, ?_⟩
      simpa [Delivery.isExpired, Delivery.isSent, isSent] using current

theorem trialStamped (lasts : 0 < now) {metrics : Table String Nat} :
    Stamped (Dispatch.settled now g (g.taken s policy now) { c.store with metrics })
      (c.notes ++ (g.trials s policy now).map (noteOf now)) := by
  intro p d found
  rw [takenAppend, List.head?_append]
  rcases Dispatch.settledPending seen punctual.regular.starts punctual.regular.stops found with
    ⟨old, untaken⟩ | ⟨e, old, rfl, took⟩
  · have none : takenAt d.messageId ((g.trials s policy now).map (noteOf now)) = [] := by
      refine List.eq_nil_iff_forall_not_mem.mpr fun t taken => ?_
      obtain ⟨_, q, e, member, same⟩ := memNotes.mp (memTakenAt.mp taken)
      by_cases here : q = p
      · subst here
        exact untaken e member
      · exact keptApart punctual.kept here
          (Dispatch.trialsPending seen punctual.regular.starts punctual.regular.stops member).1
          old same
    rw [none, punctual.stamped p d old, List.head?_nil, Option.or_none]
  · rw [Dispatch.markSentId, Dispatch.markSentOn, headTaken took, punctual.stamped p e old]
    by_cases unsent : e.sentOn = 0
    · rw [if_pos unsent, if_pos unsent, if_neg (Nat.ne_of_gt lasts), Option.none_or]
    · rw [if_neg unsent, if_neg unsent, if_neg unsent, Option.some_or]

end

def settles (c : Chronicle) : List (Policy × Deed) → Bool
  | [] => true
  | turn :: rest => turn.2.settles turn.1 c.store && (c.add turn).settles rest

theorem takenGiven (id : Nat) (l : List (Place × Delivery)) :
    takenAt id (l.map fun e => .given e.1 e.2) = [] := by
  rw [takenAt, List.filterMap_map, List.filterMap_eq_nil_iff]
  exact fun _ _ => rfl

theorem givenTimely {l : List (Place × Delivery)} (punctual : c.Punctual) :
    AllTimely (c.notes ++ l.map fun e => .given e.1 e.2) := by
  refine timelyAppend punctual.timely fun before t id taken later split => ?_
  have member : .tried t id taken ∈ l.map fun e => Note.given e.1 e.2 :=
    split ▸ List.mem_append_right _ List.mem_cons_self
  obtain ⟨e, _, same⟩ := List.mem_map.mp member
  cases same

theorem givenStamped {s : Store} {l : List (Place × Delivery)} (punctual : c.Punctual)
    (assigns : Analysis.Assigns c.store s l) :
    Stamped s (c.notes ++ l.map fun e => .given e.1 e.2) := by
  intro p d found
  rw [takenAppend, takenGiven, List.append_nil]
  rcases assigns.pending p d found with old | new
  · exact punctual.stamped p d old
  -- An id is tried only after it was given, and the new ids lie behind all those.
  · have none : takenAt d.messageId c.notes = [] := by
      refine List.eq_nil_iff_forall_not_mem.mpr fun t taken => ?_
      obtain ⟨e, given, same⟩ := List.mem_map.mp (triedGiven punctual.timely (memTakenAt.mp taken))
      have old := punctual.kept.range e given
      have id := List.mem_map_of_mem (f := fun e : Place × Delivery => e.2.messageId) new
      rw [assigns.ids, List.mem_range'_1] at id
      simp only at id same
      omega
    rw [none, if_pos (assigns.unsent _ new), List.head?_nil]

theorem stampedStill (punctual : c.Punctual) {s : Store} (starts : s.starts = c.store.starts)
    (stops : s.stops = c.store.stops) : Stamped s c.notes := by
  intro p d found
  refine punctual.stamped p d (found ▸ ?_)
  cases p <;> simp only [Store.delivery?, starts, stops]

theorem punctualAdd (punctual : c.Punctual) (turn : Policy × Deed)
    (settles : turn.2.settles turn.1 c.store = true) : (c.add turn).Punctual := by
  have regular : (turn.2.apply turn.1 c.store).Regular := Store.deedRegular punctual.regular turn.2
  have kept := deedKept punctual.kept punctual.regular turn.1 turn.2
  rw [← givenAdd] at kept
  suffices AllTimely (c.add turn).notes ∧ Stamped (c.add turn).store (c.add turn).notes from
    ⟨regular, kept, this.1, this.2⟩
  obtain ⟨policy, deed⟩ := turn
  -- Only an analysis gives actions and only a dispatch tries them.
  cases deed with
  | sync specs now =>
    simp only [add, Deed.notes, Deed.given, Deed.tried, List.map_nil, List.append_nil]
    exact ⟨punctual.timely, stampedStill punctual rfl rfl⟩
  | flush batch =>
    simp only [add, Deed.notes, Deed.given, Deed.tried, List.map_nil, List.append_nil]
    refine ⟨punctual.timely, stampedStill punctual ?_ ?_⟩ <;>
      rw [Deed.apply, Intake.flushStore] <;> split <;> rfl
  | reap now =>
    simp only [add, Deed.notes, Deed.given, Deed.tried, List.map_nil, List.append_nil]
    refine ⟨punctual.timely, stampedStill punctual ?_ ?_⟩ <;>
      simp only [Deed.apply, Store.reap] <;> cases c.store.actual.scan <;> rfl
  | analysis now failing =>
    simp only [add, Deed.notes, Deed.tried, List.append_nil]
    exact ⟨givenTimely punctual,
      givenStamped punctual (Analysis.analysisAssigns policy now { failing } ⟨c.store, []⟩)⟩
  | dispatch now failing accepts =>
    simp only [add, Deed.notes, Deed.given, Deed.tried, List.map_nil, List.nil_append]
    simp only [Deed.settles, Bool.and_eq_true, decide_eq_true_eq] at settles
    obtain ⟨lasts, ended⟩ := settles
    have ends := Dispatch.cycleEnds policy now { failing, accepts } ⟨c.store, []⟩
    rw [Deed.apply]
    change Dispatch.Ends policy now _ _
      (Fleet.dispatch policy now { failing, accepts } ⟨c.store, []⟩) at ends
    generalize Fleet.dispatch policy now { failing, accepts } ⟨c.store, []⟩ = r at *
    cases ends with
    | blind e =>
      rw [List.map_nil, List.append_nil]
      exact ⟨punctual.timely, punctual.stamped⟩
    | full o => cases ended
    | cut what e seen keptStart keptStop => cases ended
    | settled seen =>
      rw [List.nil_append, Dispatch.trialNotes]
      exact ⟨timelyAppend punctual.timely fun _ _ _ _ _ => trialTimely punctual seen,
        trialStamped punctual seen lasts⟩

theorem afterPunctual (ttl : Span) (run : List (Policy × Deed))
    (settled : (Chronicle.mk (.empty ttl) []).settles run = true) : (after ttl run).Punctual := by
  have all : ∀ c : Chronicle, c.Punctual → c.settles run = true → (run.foldl add c).Punctual := by
    clear settled
    induction run with
    | nil => exact fun c punctual _ => punctual
    | cons turn rest ih =>
      intro c punctual settled
      simp only [settles, Bool.and_eq_true] at settled
      exact ih _ (punctualAdd punctual turn settled.1) settled.2
  refine all _ ⟨Store.emptyRegular ttl, keptEmpty ttl, ?_, ?_⟩ settled
  · intro before t id taken later split
    simp at split
  · intro p d found
    cases p <;> cases found

structure Windowed (c : Chronicle) (d : Delivery) : Prop where
  once : d.keepAlive = 0 → (takenAt d.messageId c.notes).length ≤ 1
  window : ∀ before s later, c.notes = before ++ .tried s d.messageId true :: later →
    takenAt d.messageId before = [] → ∀ t taken, .tried t d.messageId taken ∈ later →
      t < Fleet.after s d.keepAlive
  early : ∀ t taken, .tried t d.messageId taken ∈ c.notes → d.sendOn ≤ t

theorem timelyGiven (punctual : c.Punctual) {p : Place} {d : Delivery} (given : (p, d) ∈ c.given)
    {before later : List Note} {t : Nat} {taken : Bool}
    (split : c.notes = before ++ .tried t d.messageId taken :: later) : d.sendOn ≤ t ∧
      ∀ s, (takenAt d.messageId before).head? = some s →
        0 < d.keepAlive ∧ t < Fleet.after s d.keepAlive := by
  obtain ⟨q, e, earlier, same, due, window⟩ := punctual.timely _ _ _ _ _ split
  have noted : (q, e) ∈ c.given := memGiven.mpr (split ▸ List.mem_append_left _ earlier)
  cases List.inj_on_of_nodup_map punctual.kept.once noted given same
  exact ⟨due, window⟩

theorem laterTimely (punctual : c.Punctual) {p : Place} {d : Delivery} (given : (p, d) ∈ c.given)
    {before later : List Note} {s : Nat}
    (split : c.notes = before ++ .tried s d.messageId true :: later)
    (first : takenAt d.messageId before = []) {t : Nat} {taken : Bool}
    (member : .tried t d.messageId taken ∈ later) :
    0 < d.keepAlive ∧ t < Fleet.after s d.keepAlive := by
  obtain ⟨between, rest, rfl⟩ := List.append_of_mem member
  rw [← List.cons_append, ← List.append_assoc] at split
  refine (timelyGiven punctual given split).2 s ?_
  rw [takenAppend, first, List.nil_append]
  simp [takenAt, Note.takenAt?]

theorem windowed (punctual : c.Punctual) {p : Place} {d : Delivery} (given : (p, d) ∈ c.given) :
    c.Windowed d where
  once gone := by
    cases times : takenAt d.messageId c.notes with
    | nil => exact Nat.zero_le 1
    | cons s more =>
      obtain ⟨before, note, later, split, first, took, rest⟩ := List.filterMap_eq_cons_iff.mp times
      cases takenAtSome.mp took
      -- A second time would lie in the window of the first, and that one is empty.
      have none : more = [] := by
        refine List.eq_nil_iff_forall_not_mem.mpr fun t again => ?_
        rw [← rest] at again
        have alive := (laterTimely punctual given split (List.filterMap_eq_nil_iff.mpr first)
          (memTakenAt.mp again)).1
        omega
      rw [none]
      exact Nat.le_refl 1
  window before s later split first t taken member :=
    (laterTimely punctual given split first member).2
  early t taken member := by
    obtain ⟨before, later, split⟩ := List.append_of_mem member
    exact (timelyGiven punctual given split).1

theorem runWindowed (ttl : Span) (run : List (Policy × Deed))
    (settled : (Chronicle.mk (.empty ttl) []).settles run = true) :
    (∀ t id taken, .tried t id taken ∈ (after ttl run).notes → id ∈ (after ttl run).givenIds) ∧
      ∀ p d, .given p d ∈ (after ttl run).notes → (after ttl run).Windowed d := by
  have punctual := afterPunctual ttl run settled
  exact ⟨fun t id taken => triedGiven punctual.timely,
    fun p d given => windowed punctual (memGiven.mpr given)⟩

def relaunch : List (Policy × Deed) :=
  let web : App := ⟨"web", "v1"⟩
  [({}, .sync [⟨web, 2, .started, .staged, 0⟩] 1000),
    ({}, .flush ⟨[⟨web, 0, "a", .crashed, 1000⟩], 1000⟩),
    ({}, .analysis 1000 []),
    ({}, .dispatch 1000 [] fun _ => false),
    ({}, .dispatch 1005 [] fun _ => true),
    ({}, .dispatch 1020 [] fun _ => true),
    ({}, .sync [⟨web, 2, .started, .staged, 0⟩] 1040),
    ({}, .flush ⟨[⟨web, 0, "b", .running, 1040⟩], 1040⟩),
    ({}, .dispatch 1040 [] fun _ => true),
    ({}, .dispatch 1050 [] fun _ => true)]

theorem relaunchWindowed : (Chronicle.mk (.empty (.ofSecs 30)) []).settles relaunch = true ∧
    (after (.ofSecs 30) relaunch).notes = [
      .given (.start "web,v1,0") ⟨1, 1000, 0, 30, false⟩,
      .given (.start "web,v1,1") ⟨2, 1030, 0, 0, false⟩,
      .tried 1000 1 false, .tried 1005 1 true, .tried 1020 1 true, .tried 1040 2 true] ∧
    ∀ p d, .given p d ∈ (after (.ofSecs 30) relaunch).notes →
      (after (.ofSecs 30) relaunch).Windowed d :=
  ⟨by decide +kernel, by decide +kernel,
    (runWindowed (.ofSecs 30) relaunch (by decide +kernel)).2⟩

end Chronicle
end Fleet
