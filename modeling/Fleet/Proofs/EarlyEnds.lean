import Fleet.Proofs.Analyses
import Fleet.Proofs.Dispatches

/-! Cycles that end early. A cycle reads all that it needs before it writes or sends anything,
so where a reading fails or the state is stale, it leaves the store and the messages as they
were; and whatever else it comes to, it has found the state fresh. -/
namespace Fleet

def CycleError.isEarly : CycleError → Bool
  | .unread _ _ | .stale _ _ _ => true
  | .unwritten _ _ | .unsent _ _ => false

namespace Procedure
variable {α β γ : Type} {like : α → Prop} {like' : β → Prop}

def Yields (like : α → Prop) : Procedure α → Prop
  | .done a => like a
  | .halt _ => True
  | .call _ next => ∀ r, (next r).Yields like

theorem yieldsBind {p : Procedure α} {f : α → Procedure β} (first : p.Yields like)
    (rest : ∀ a, like a → (f a).Yields like') : (p.bind f).Yields like' := by
  induction p with
  | done a => exact rest a first
  | halt o => trivial
  | call c next ih => exact fun r => ih r (first r)

theorem yieldsAny (p : Procedure α) : p.Yields fun _ => True := by
  induction p with
  | done a => trivial
  | halt o => trivial
  | call c next ih => exact ih

theorem yieldsRun {p : Procedure α} (yields : p.Yields like) {s : Surroundings} {w w' : World} {a : α}
    (ran : p.run s w = (.ok a, w')) : like a := by
  induction p generalizing w with
  | done b =>
    cases ran
    exact yields
  | halt o => cases ran
  | call c next ih =>
    rw [run] at ran
    cases answer : attempt s c w with
    | error o => rw [answer] at ran; cases ran
    | ok made =>
      rw [answer] at ran
      exact ih made.1 (yields made.1) ran

theorem bindAssoc (p : Procedure α) (f : α → Procedure β) (g : β → Procedure γ) :
    (p.bind f).bind g = p.bind fun a => (f a).bind g := by
  induction p with
  | done a => rfl
  | halt o => rfl
  | call c next ih => exact congrArg (call c) (funext ih)

theorem splitBind (p : Procedure α) (f : α → Procedure β) :
    (p.bind f).split = p.split.bind fun a => (f a).split := by
  induction p with
  | done a => rfl
  | halt o => rfl
  | call c next ih =>
    cases c with
    | saveAnalysis starts stops counts =>
      simp only [bind, split, bindAssoc]
      exact congrArg _ (funext ih)
    | _ => exact congrArg (call _) (funext ih)

theorem splitOnly {p : Procedure α} (only : p.Only fun c => c.decision? = none) : p.split = p := by
  induction p with
  | done a => rfl
  | halt o => rfl
  | call c next ih =>
    cases c with
    | saveAnalysis starts stops counts => cases only.1
    | _ => exact congrArg (call _) (funext fun r => ih r (only.2 r))

theorem yieldsSplit {p : Procedure α} (yields : p.Yields like) : p.split.Yields like := by
  induction p with
  | done a => exact yields
  | halt o => trivial
  | call c next ih =>
    cases c with
    | saveAnalysis starts stops counts => exact yieldsBind (yieldsAny _) fun r _ => ih r (yields r)
    | _ => exact fun r => ih r (yields r)

end Procedure

namespace Cycle
variable {α β : Type} {early : Bool} {s : Surroundings} {w : World} {now ttl : Nat}

def Errs (early : Bool) (x : Cycle α) : Prop :=
  x.run.Yields fun r => ∀ e, r = .error e → e.isEarly = early

theorem errsPure (a : α) : Errs early (pure a : Cycle α) := nofun

theorem errsThrow {e : CycleError} (is : e.isEarly = early) : Errs early (throw e : Cycle α) := by
  rintro _ ⟨⟩
  exact is

theorem errsHalt (o : Overflow) : Errs early (halt o : Cycle α) := trivial

theorem errsRead (c : Call) (what : Reading) : Errs true (read c what) := by
  rintro (e | r)
  · rintro _ ⟨⟩
    rfl
  · nofun

theorem errsWrite (c : Call) (what : Writing) : Errs false (write c what) := by
  rintro (e | r)
  · rintro _ ⟨⟩
    rfl
  · nofun

theorem errsLift (p : Procedure α) : Errs early (ExceptT.lift p : Cycle α) :=
  Procedure.yieldsBind (Procedure.yieldsAny p) fun _ _ => nofun

theorem errsBind {x : Cycle α} {f : α → Cycle β} (first : Errs early x) (rest : ∀ a, Errs early (f a)) :
    Errs early (x >>= f) := by
  refine Procedure.yieldsBind (f := ExceptT.bindCont f) first fun r errs => ?_
  cases r with
  | ok a => exact rest a
  | error e =>
    rintro _ ⟨⟩
    exact errs e rfl

theorem errsFresh (now ttl : Nat) : Errs true (requireFresh now ttl) := by
  refine errsBind (errsRead _ _) fun f => ?_
  cases f.desiredIsFresh now ttl with
  | false => exact errsThrow rfl
  | true =>
    cases f.actualIsFresh now ttl with
    | false => exact errsThrow rfl
    | true => exact errsPure _

theorem errsSnapshot (now : Nat) : Errs true (snapshot now) :=
  errsBind (errsRead _ _) fun _ => errsBind (errsRead _ _) fun _ => errsPure _

/-- An early error leaves the world as it was, and every other end shows that the wanted and
the reported state had been heard of, neither longer ago than `ttl`. -/
structure Traceless (now ttl : Nat) (w : World) (r : Except Overflow (Except CycleError α) × World) :
    Prop where
  untouched : ∀ e, r.1 = .ok (.error e) → e.isEarly = true → r.2 = w
  fresh : (∀ e, r.1 = .ok (.error e) → e.isEarly = false) →
    (w.store.freshness.desiredAt ≠ 0 ∧ now - w.store.freshness.desiredAt ≤ ttl) ∧
      w.store.freshness.actualAt ≠ 0 ∧ now - w.store.freshness.actualAt ≤ ttl

theorem freshStamps (fresh : Fresh now ttl w.store) :
    (w.store.freshness.desiredAt ≠ 0 ∧ now - w.store.freshness.desiredAt ≤ ttl) ∧
      w.store.freshness.actualAt ≠ 0 ∧ now - w.store.freshness.actualAt ≤ ttl := by
  simpa [Fresh, Freshness.desiredIsFresh, Freshness.actualIsFresh, Freshness.isFresh] using fresh

theorem tracelessRun {x : Cycle α} {f : α → Cycle β} {like : α → Prop}
    (only : x.run.Only fun c => c.decision? = none) (looks : Looks s w x like)
    (fresh : ∀ a, like a → Fresh now ttl w.store) (first : Errs true x) (rest : ∀ a, Errs false (f a)) :
    Traceless now ttl w ((x >>= f).run.runIn s w) := by
  -- Saving in turn changes only what comes after the look.
  obtain ⟨next, same, fails, errs⟩ : ∃ next : Except CycleError α → Procedure (Except CycleError β),
      (x >>= f).run.runIn s w = (x.run.bind next).run s w ∧
      (∀ e, next (.error e) = .done (.error e)) ∧
      ∀ a, (next (.ok a)).Yields fun r => ∀ e, r = .error e → e.isEarly = false := by
    unfold Procedure.runIn
    split
    · refine ⟨fun r => (ExceptT.bindCont f r).split, ?_, fun e => rfl, fun a =>
        Procedure.yieldsSplit (rest a)⟩
      change (x.run.bind (ExceptT.bindCont f)).split.run s w = _
      rw [Procedure.splitBind, Procedure.splitOnly only]
    · exact ⟨ExceptT.bindCont f, rfl, fun e => rfl, rest⟩
  rw [same, Procedure.runBind]
  rcases looks with ⟨a, is, run⟩ | ⟨e, run⟩ <;> rw [run]
  · refine ⟨fun e ended is => ?_, fun _ => freshStamps (fresh a is)⟩
    have late := Procedure.yieldsRun (errs a) (Prod.ext ended rfl) e rfl
    rw [late] at is
    cases is
  · have early := Procedure.yieldsRun first run e rfl
    simp only [fails, Procedure.run]
    refine ⟨fun _ _ _ => rfl, fun late => ?_⟩
    rw [late e rfl] at early
    cases early

end Cycle

namespace Analysis
variable {policy : Policy} {now : Nat}

theorem lookErrs : Cycle.Errs true (look policy now) := by
  refine Cycle.errsBind (Cycle.errsFresh _ _) fun _ => ?_
  refine Cycle.errsBind (Cycle.errsSnapshot _) fun _ => ?_
  refine Cycle.errsBind (Cycle.errsRead _ _) fun _ => ?_
  refine Cycle.errsBind (Cycle.errsRead _ _) fun _ => ?_
  exact Cycle.errsBind (Cycle.errsRead _ _) fun _ => Cycle.errsPure _

theorem numberedErrs (d : Decision) : Cycle.Errs false (numbered d) := by
  unfold numbered
  split
  · exact Cycle.errsPure _
  · refine Cycle.errsBind (Cycle.errsWrite _ _) fun first => ?_
    split
    · exact Cycle.errsPure _
    · exact Cycle.errsHalt _

theorem removeErrs (counts : List CrashCount) : Cycle.Errs false (remove counts) := by
  unfold remove
  split
  · exact Cycle.errsPure _
  · refine Cycle.errsBind (Cycle.errsLift _) fun answer => ?_
    cases answer <;> exact Cycle.errsPure _

theorem analyzeTraceless (policy : Policy) (now : Nat) (s : Surroundings) (w : World) :
    Cycle.Traceless now policy.freshnessTtl.secs w (analyze policy now s w) := by
  refine Cycle.tracelessRun lookOnly (lookLooks policy now s w) (fun g seen => seen.fresh) lookErrs
    fun g => ?_
  refine Cycle.errsBind (numberedErrs _) fun d => ?_
  refine Cycle.errsBind (Cycle.errsWrite _ _) fun _ => ?_
  exact Cycle.errsBind (removeErrs _) fun _ => Cycle.errsPure _

end Analysis

namespace Dispatch
variable {policy : Policy} {now : Nat}

theorem lookOnly {allowed : Call → Prop}
    (plain : ∀ c : Call, c.message? = none → c.decision? = none → allowed c) :
    (look policy now).run.Only allowed := by
  refine Cycle.onlyBind (Cycle.onlyFresh (plain _ rfl rfl)) fun _ => ?_
  refine Cycle.onlyBind (Cycle.onlyRead (plain _ rfl rfl)) fun _ => ?_
  refine Cycle.onlyBind (Cycle.onlyRead (plain _ rfl rfl)) fun _ => ?_
  exact Cycle.onlyBind (Cycle.onlySnapshot (plain _ rfl rfl) (plain _ rfl rfl)) fun _ =>
    Cycle.onlyPure _

theorem lookErrs : Cycle.Errs true (look policy now) := by
  refine Cycle.errsBind (Cycle.errsFresh _ _) fun _ => ?_
  refine Cycle.errsBind (Cycle.errsRead _ _) fun _ => ?_
  refine Cycle.errsBind (Cycle.errsRead _ _) fun _ => ?_
  exact Cycle.errsBind (Cycle.errsSnapshot _) fun _ => Cycle.errsPure _

theorem settleErrs (g : Sight) (t : Sent) : Cycle.Errs false (settle now g t) := by
  refine Cycle.errsBind (Cycle.errsWrite _ _) fun _ => ?_
  refine Cycle.errsBind (Cycle.errsWrite _ _) fun _ => ?_
  exact Cycle.errsBind (Cycle.errsWrite _ _) fun _ => Cycle.errsWrite _ _

theorem concludeLate (g : Sight) (t : Sent) {e : CycleError} (ended : conclude policy now g t = .error e) :
    e.isEarly = false := by
  unfold conclude at ended
  split at ended
  · cases ended
    rfl
  · cases ended

theorem dispatchTraceless (policy : Policy) (now : Nat) (s : Surroundings) (w : World) :
    Cycle.Traceless now policy.freshnessTtl.secs w (dispatch policy now s w) := by
  refine Cycle.tracelessRun (lookOnly fun _ _ => id) (lookLooks policy now s w) (fun g seen => seen.fresh) lookErrs
    fun g => ?_
  refine Cycle.errsBind (Cycle.errsLift _) fun t => ?_
  exact Cycle.errsBind (settleErrs g t) fun _ => fun e ended => concludeLate g t ended

end Dispatch

theorem Cycle.failuresTraceless (policy : Policy) (now : Nat) (s : Surroundings) (w : World) :
    Traceless now policy.freshnessTtl.secs w (analyze policy now s w) ∧
      Traceless now policy.freshnessTtl.secs w (dispatch policy now s w) :=
  ⟨Analysis.analyzeTraceless policy now s w, Dispatch.dispatchTraceless policy now s w⟩

example :
    let w : World := ⟨{ Store.empty .zero with
      freshness := ⟨1000, 1000⟩, stops := Table.empty.insert "x" (.foreign "[1]") }, []⟩
    dispatch {} 1000 {} w = (.ok (.error (.unread .stops .undecodable)), w) := by rfl

end Fleet
