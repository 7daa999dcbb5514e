import Fleet.Proofs.Cycles

/-! Running a cycle where any call may be refused, and the calls that a run makes. What
only reads leaves the world as it is, whether it comes to a result or ends early. -/
namespace Fleet

def Call.message? : Call → Option Message
  | .send m => some m
  | _ => none

namespace Procedure
variable {α β : Type} {s : Surroundings} {allowed : Call → Prop}

def calls (s : Surroundings) : Procedure α → World → List Call
  | .done _, _ => []
  | .halt _, _ => []
  | .call c next, w =>
      c :: match attempt s c w with
        | .error _ => []
        | .ok (r, w) => (next r).calls s w

theorem callsBind (p : Procedure α) (f : α → Procedure β) (w : World) :
    (p.bind f).calls s w = p.calls s w ++
      match p.run s w with
      | (.ok a, w) => (f a).calls s w
      | (.error _, _) => [] := by
  induction p generalizing w with
  | done a => rfl
  | halt o => rfl
  | call c next ih =>
    simp only [bind, calls, run, List.cons_append]
    cases attempt s c w with
    | error o => simp
    | ok answer => simp only [ih]

def Only (allowed : Call → Prop) : Procedure α → Prop
  | .done _ => True
  | .halt _ => True
  | .call c next => allowed c ∧ ∀ r, (next r).Only allowed

theorem onlyBind {p : Procedure α} {f : α → Procedure β} (first : p.Only allowed)
    (rest : ∀ a, (f a).Only allowed) : (p.bind f).Only allowed := by
  induction p with
  | done a => exact rest a
  | halt o => trivial
  | call c next ih => exact ⟨first.1, fun r => ih r (first.2 r)⟩

theorem onlyCalls {p : Procedure α} (only : p.Only allowed) (w : World) :
    ∀ c ∈ p.calls s w, allowed c := by
  induction p generalizing w with
  | done a => exact nofun
  | halt o => exact nofun
  | call c next ih =>
    intro c' member
    rw [calls] at member
    rcases List.mem_cons.mp member with rfl | later
    · exact only.1
    · cases answer : attempt s c w with
      | error o => simp [answer] at later
      | ok made =>
        rw [answer] at later
        exact ih made.1 (only.2 made.1) made.2 c' later

end Procedure

namespace Cycle
variable {α β : Type} {s : Surroundings} {w w' : World} {allowed : Call → Prop}

def Fails (r : Except Overflow (Except CycleError α)) : Prop := ∀ a, r ≠ .ok (.ok a)

theorem failsHalt (o : Overflow) : Fails (.error o : Except Overflow (Except CycleError α)) := by
  intro a same
  cases same

theorem failsError (e : CycleError) : Fails (.ok (.error e) : Except Overflow (Except CycleError α)) := by
  intro a same
  cases same

theorem callsBindOk {x : Cycle α} {f : α → Cycle β} {a : α}
    (h : x.run.run s w = (.ok (.ok a), w')) :
    (x >>= f).run.calls s w = x.run.calls s w ++ (f a).run.calls s w' := by
  refine (Procedure.callsBind x.run (ExceptT.bindCont f) w).trans ?_
  rw [h]
  rfl

theorem callsBindEnd {x : Cycle α} {f : α → Cycle β} {r : Except Overflow (Except CycleError α)}
    (h : x.run.run s w = (r, w')) (ends : Fails r) :
    (x >>= f).run.calls s w = x.run.calls s w := by
  refine (Procedure.callsBind x.run (ExceptT.bindCont f) w).trans ?_
  rw [h]
  rcases r with o | (e | a)
  · exact List.append_nil _
  · exact List.append_nil _
  · exact absurd rfl (ends a)

theorem runBindEnd {x : Cycle α} {f : α → Cycle β} {r : Except Overflow (Except CycleError α)}
    (h : x.run.run s w = (r, w')) (ends : Fails r) :
    ∃ r', Fails r' ∧ (x >>= f).run.run s w = (r', w') := by
  rcases r with o | (e | a)
  · exact ⟨.error o, failsHalt o, runBindHalt h⟩
  · exact ⟨.ok (.error e), failsError e, runBindError h⟩
  · exact absurd rfl (ends a)

theorem onlyBind {x : Cycle α} {f : α → Cycle β} (first : x.run.Only allowed)
    (rest : ∀ a, (f a).run.Only allowed) : (x >>= f).run.Only allowed := by
  refine Procedure.onlyBind (f := ExceptT.bindCont f) first fun r => ?_
  cases r with
  | ok a => exact rest a
  | error e => trivial

theorem onlyPure (a : α) : (pure a : Cycle α).run.Only allowed := trivial

theorem onlyThrow (e : CycleError) : (throw e : Cycle α).run.Only allowed := trivial

theorem onlyRead {c : Call} {what : Reading} (may : allowed c) : (read c what).run.Only allowed :=
  ⟨may, fun r => by cases r <;> trivial⟩

theorem onlyWrite {c : Call} {what : Writing} (may : allowed c) : (write c what).run.Only allowed :=
  ⟨may, fun r => by cases r <;> trivial⟩

theorem onlyAsk {c : Call} (may : allowed c) :
    (ExceptT.lift (Procedure.ask c) : Cycle _).run.Only allowed := ⟨may, fun _ => trivial⟩

theorem onlyFresh {now ttl : Nat} (may : allowed .freshness) :
    (requireFresh now ttl).run.Only allowed := by
  refine onlyBind (onlyRead may) fun f => ?_
  cases f.desiredIsFresh now ttl with
  | false => exact onlyThrow _
  | true =>
    cases f.actualIsFresh now ttl with
    | false => exact onlyThrow _
    | true => exact onlyPure _

theorem onlySnapshot {now : Nat} (may : allowed .desiredState) (may' : allowed (.actualState now)) :
    (snapshot now).run.Only allowed :=
  onlyBind (onlyRead may) fun _ => onlyBind (onlyRead may') fun _ => onlyPure _

theorem okBind {x : Cycle α} {f : α → Cycle β} {b : β} :
    (x >>= f).run.run s w = (.ok (.ok b), w') ↔
      ∃ a v, x.run.run s w = (.ok (.ok a), v) ∧ (f a).run.run s v = (.ok (.ok b), w') := by
  constructor
  · intro h
    rw [runBind] at h
    rcases first : x.run.run s w with ⟨(o | (e | a)), v⟩ <;> rw [first] at h
    · cases h
    · cases h
    · exact ⟨a, v, rfl, h⟩
  · rintro ⟨a, v, first, rest⟩
    rw [runBindOk first, rest]

theorem okRead {c : Call} {what : Reading} {r : c.Reply} :
    (read c what).run.run s w = (.ok (.ok r), w') ↔
      c.name ∉ s.failing ∧ w.serve s.accepts c = .ok (.ok r, w') := by
  simp only [read, ExceptT.run_mk, Procedure.run, Procedure.attempt]
  by_cases refused : c.name ∈ s.failing
  · simp [refused, Procedure.run]
  · rw [if_neg refused]
    rcases w.serve s.accepts c with o | ⟨(e | r'), v⟩ <;> simp [refused, Procedure.run]

theorem freshOpen {now ttl : Nat} {u : Unit}
    (h : (requireFresh now ttl).run.run s w = (.ok (.ok u), w')) : "get_freshness" ∉ s.failing := by
  obtain ⟨_, _, first, _⟩ := okBind.mp h
  exact (okRead.mp first).1

theorem freshRun {now ttl : Nat} (served : "get_freshness" ∉ s.failing) (fresh : Fresh now ttl w.store) :
    (requireFresh now ttl).run.run s w = (.ok (.ok ()), w) := by
  have got : (read .freshness .freshness).run.run s w = (.ok (.ok w.store.freshness), w) :=
    okRead.mpr ⟨served, rfl⟩
  rw [requireFresh, runBindOk got, fresh.1, fresh.2]
  rfl

theorem snapshotOpen {now : Nat} {v : Snapshot} (h : (snapshot now).run.run s w = (.ok (.ok v), w')) :
    "get_desired_state" ∉ s.failing ∧ "get_actual_state" ∉ s.failing := by
  obtain ⟨_, _, first, rest⟩ := okBind.mp h
  obtain ⟨_, _, second, _⟩ := okBind.mp rest
  exact ⟨(okRead.mp first).1, (okRead.mp second).1⟩

theorem showsRun {now : Nat} {v : Snapshot} (desired : "get_desired_state" ∉ s.failing)
    (actual : "get_actual_state" ∉ s.failing) (shows : Shows w.store now v) :
    (snapshot now).run.run s w = (.ok (.ok v), w) := by
  obtain ⟨d, a, hd, ha, rfl⟩ := shows
  have first : (read .desiredState .desiredState).run.run s w = (.ok (.ok d), w) :=
    okRead.mpr ⟨desired, by rw [World.serve, hd]; rfl⟩
  have second : (read (.actualState now) .actualState).run.run s w = (.ok (.ok a), w) :=
    okRead.mpr ⟨actual, by rw [World.serve, ha]; rfl⟩
  rw [snapshot, runBindOk first, runBindOk second]
  rfl

def Looks (s : Surroundings) (w : World) (x : Cycle α) (like : α → Prop) : Prop :=
  (∃ a, like a ∧ x.run.run s w = (.ok (.ok a), w)) ∨ ∃ e, x.run.run s w = (.ok (.error e), w)

variable {like : α → Prop} {like' : β → Prop}

theorem looksBind {x : Cycle α} {f : α → Cycle β} (first : Looks s w x like)
    (rest : ∀ a, like a → Looks s w (f a) like') : Looks s w (x >>= f) like' := by
  rcases first with ⟨a, is, run⟩ | ⟨e, run⟩
  · rw [Looks, runBindOk run]
    exact rest a is
  · exact .inr ⟨e, runBindError run⟩

theorem looksPure {a : α} (is : like a) : Looks s w (pure a) like := .inl ⟨a, is, rfl⟩

theorem looksThrow (e : CycleError) : Looks s w (throw e) like := .inr ⟨e, rfl⟩

theorem looksRead {c : Call} {what : Reading} {answer : Except StoreError c.Reply}
    (served : w.serve s.accepts c = .ok (answer, w)) :
    Looks s w (read c what) (fun r => answer = .ok r) := by
  unfold Looks
  simp only [read, ExceptT.run_mk, Procedure.run, Procedure.attempt]
  split <;> rename_i h <;> split at h
  · cases h
  · rw [served] at h; cases h
  · cases h; exact .inr ⟨_, rfl⟩
  · rw [served] at h
    cases h
    cases answer with
    | ok r => exact .inl ⟨r, rfl, rfl⟩
    | error e => exact .inr ⟨_, rfl⟩

theorem looksFresh (now ttl : Nat) :
    Looks s w (requireFresh now ttl) (fun _ => Fresh now ttl w.store) := by
  refine looksBind (looksRead rfl) fun f is => ?_
  obtain rfl := Except.ok.inj is
  cases desired : w.store.freshness.desiredIsFresh now ttl with
  | false => exact .inr ⟨_, runBindError rfl⟩
  | true =>
    cases actual : w.store.freshness.actualIsFresh now ttl with
    | false => exact looksThrow _
    | true => exact looksPure ⟨desired, actual⟩

theorem looksSnapshot (now : Nat) : Looks s w (snapshot now) (Shows w.store now) :=
  looksBind (looksRead rfl) fun desired one => looksBind (looksRead rfl) fun actual two =>
    looksPure ⟨desired, actual, one, two, rfl⟩

theorem callsWrite (c : Call) (what : Writing) (s : Surroundings) (w : World) :
    (write c what).run.calls s w = [c] := by
  simp only [write, ExceptT.run_mk, Procedure.calls, List.cons.injEq, true_and]
  rcases Procedure.attempt s c w with o | ⟨(e | r), v⟩ <;> rfl

theorem runWriteEither {c : Call} (what : Writing) {r : c.Reply}
    (served : w.serve s.accepts c = .ok (.ok r, w')) :
    (∃ e, c.name ∈ s.failing ∧ (write c what).run.run s w = (.ok (.error (.unwritten what e)), w)) ∨
      (c.name ∉ s.failing ∧ (write c what).run.run s w = (.ok (.ok r), w')) := by
  simp only [write, ExceptT.run_mk, Procedure.run, Procedure.attempt]
  by_cases refused : c.name ∈ s.failing
  · refine .inl ⟨.unavailable c.name, refused, ?_⟩
    simp only [if_pos refused]
    rfl
  · refine .inr ⟨refused, ?_⟩
    simp only [if_neg refused, served]
    rfl

theorem runWriteHalt {c : Call} (what : Writing) {o : Overflow}
    (served : w.serve s.accepts c = .error o) :
    ∃ r, Fails r ∧ (write c what).run.run s w = (r, w) := by
  simp only [write, ExceptT.run_mk, Procedure.run, Procedure.attempt]
  by_cases refused : c.name ∈ s.failing
  · refine ⟨.ok (.error (.unwritten what (.unavailable c.name))), failsError _, ?_⟩
    simp only [if_pos refused]
    rfl
  · refine ⟨.error o, failsHalt o, ?_⟩
    simp only [if_neg refused, served]

theorem runAsk {c : Call} {r : c.Reply} (served : w.serve s.accepts c = .ok (.ok r, w')) :
    (ExceptT.lift (Procedure.ask c) : Cycle _).run.run s w =
      if c.name ∈ s.failing then (.ok (.ok (.error (.unavailable c.name))), w)
      else (.ok (.ok (.ok r)), w') := by
  rw [runLift]
  by_cases refused : c.name ∈ s.failing <;>
    simp [Procedure.ask, Procedure.run, Procedure.attempt, refused, served]

end Cycle
end Fleet
