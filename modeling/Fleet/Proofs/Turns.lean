import Fleet.Proofs.Conduct

/-! An analyzer and a dispatcher that run cycle after cycle on one store, their calls
taken in any turns and any of them refused, while others may change whatever is not
pending. The analyzer never replaces what is pending, and a pending action stays until
the dispatcher removes it in a cycle that has read it. -/
namespace Fleet

inductive Event where
  | begun (side : Side) (now : Nat)
  | called (side : Side) (c : Call) (reply : Except StoreError c.Reply)
  | halted (side : Side)
  | outside

def Event.isSave : Event → Bool
  | .called .analyzer (.saveAnalysis _ _ _) _ => true
  | _ => false

theorem Event.ofIsSave {e : Event} (saves : e.isSave = true) :
    ∃ starts stops counts reply, e = .called .analyzer (.saveAnalysis starts stops counts) reply := by
  unfold isSave at saves
  split at saves
  · exact ⟨_, _, _, _, rfl⟩
  · cases saves

structure Shared where
  world : World
  tasks : Side → Procedure Unit
  history : List Event

def Side.cycle (policy : Policy) (now : Nat) : Side → Procedure Unit
  | .analyzer => (Analysis.cycle policy now).run.bind fun _ => .done ()
  | .dispatcher => (Dispatch.cycle policy now).run.bind fun _ => .done ()

namespace Shared

def turn (s : Shared) (side : Side) (task : Procedure Unit) (w : World) (e : Event) : Shared :=
  ⟨w, Function.update s.tasks side task, e :: s.history⟩

/-- A side begins a cycle when it has no call left to make; a call is served whole. -/
inductive Step (policy : Policy) (s : Shared) : Shared → Prop
  | begin (side : Side) (now : Nat) (free : ∀ c next, s.tasks side ≠ .call c next) :
      Step policy s (s.turn side (side.cycle policy now) s.world (.begun side now))
  | call {side : Side} {c : Call} {next : Except StoreError c.Reply → Procedure Unit}
      {surroundings : Surroundings} {reply : Except StoreError c.Reply} {w : World}
      (task : s.tasks side = .call c next)
      (served : Procedure.attempt surroundings c s.world = .ok (reply, w)) :
      Step policy s (s.turn side (next reply) w (.called side c reply))
  | halt {side : Side} {c : Call} {next : Except StoreError c.Reply → Procedure Unit}
      {surroundings : Surroundings} {o : Overflow} (task : s.tasks side = .call c next)
      (served : Procedure.attempt surroundings c s.world = .error o) :
      Step policy s (s.turn side (.halt o) s.world (.halted side))
  | outside {w : World} (starts : w.store.starts = s.world.store.starts)
      (stops : w.store.stops = s.world.store.stops) :
      Step policy s ⟨w, s.tasks, .outside :: s.history⟩

def proceed (policy : Policy) (now : Nat) (s : Shared) (side : Side) : Shared :=
  match s.tasks side with
  | .call c next =>
      match Procedure.attempt {} c s.world with
      | .ok (reply, w) => s.turn side (next reply) w (.called side c reply)
      | .error o => s.turn side (.halt o) s.world (.halted side)
  | _ => s.turn side (side.cycle policy now) s.world (.begun side now)

theorem proceedStep (policy : Policy) (now : Nat) (s : Shared) (side : Side) :
    Step policy s (s.proceed policy now side) := by
  unfold proceed
  split
  · rename_i c next task
    split
    · rename_i reply w served
      exact .call task served
    · rename_i o served
      exact .halt task served
  · rename_i free
    exact .begin side now free

abbrev Run (policy : Policy) : Shared → Shared → Prop := Relation.ReflTransGen (Step policy)

theorem proceedRun (policy : Policy) (now : Nat) (s : Shared) (sides : List Side) :
    Run policy s (sides.foldl (proceed policy now) s) := by
  induction sides generalizing s with
  | nil => exact .refl
  | cons side rest ih => exact .head (proceedStep policy now s side) (ih _)

structure Opening (s : Shared) : Prop where
  idle : ∀ side, s.tasks side = .done ()
  starts : Rows.Own Start.key s.world.store.starts
  stops : Rows.Own Stop.key s.world.store.stops

end Shared

namespace Queue
variable {α : Type} [Record α] (q : Queue α)

def readBy : List Event → List α
  | [] => []
  | .begun .dispatcher _ :: _ => []
  | .called .dispatcher c reply :: earlier =>
      match q.move c reply with
      | .read rs => rs
      | _ => readBy earlier
  | _ :: earlier => readBy earlier

def removed : Event → List α
  | .called .dispatcher c reply =>
      match q.move c reply with
      | .drop gone => gone
      | _ => []
  | _ => []

def table (s : Shared) : Rows α := q.rows s.world.store

def Stays (s s' : Shared) : Prop :=
  ∀ k row, (q.table s).get? k = some row → (q.table s').get? k = some row

def Removed (s s' : Shared) (k : String) (row : Row α) : Prop :=
  ∃ later e earlier, s'.history = later ++ e :: earlier ∧ s.history <:+ earlier ∧
    ∃ a ∈ q.removed e, a ∈ q.readBy earlier ∧ q.key a = k ∧
      ∃ r, row.record? = some r ∧ (q.delivery a).messageId = (q.delivery r).messageId

def Lasts (same : α → α → Prop) (s s' : Shared) : Prop :=
  ∀ k row, (q.table s).get? k = some row →
    (∃ row', (q.table s').get? k = some row' ∧ row.Kept same row') ∨ q.Removed s s' k row

structure Tended (policy : Policy) : Prop where
  analysis : ∀ now, q.Follows .analyzer (fun _ _ => True) none (Analysis.cycle policy now)
  dispatch : ∀ now, q.Follows .dispatcher (fun _ _ => True) none (Dispatch.cycle policy now)

structure Holds (s : Shared) (seen held : Option (List α)) : Prop where
  analyzer : q.Conducts .analyzer (fun _ _ => True) seen (s.tasks .analyzer)
  dispatcher : q.Conducts .dispatcher (fun _ _ => True) held (s.tasks .dispatcher)
  sound : q.Sound (q.table s) seen held
  reads : ∀ rs, held = some rs → rs ⊆ q.readBy s.history

variable {q} {policy : Policy} {s s' s'' : Shared} {seen held : Option (List α)}

theorem tendedCycle (tended : q.Tended policy) (side : Side) (now : Nat) :
    q.Conducts side (fun _ _ => True) none (side.cycle policy now) := by
  cases side with
  | analyzer => exact conductsBind (conductsMono (fun _ _ _ => trivial) (tended.analysis now))
  | dispatcher => exact conductsBind (conductsMono (fun _ _ _ => trivial) (tended.dispatch now))

theorem readDistinct (sound : q.Sound (q.table s) seen held) {c : Call} {surroundings : Surroundings}
    {reply : Except StoreError c.Reply} {w : World}
    (served : Procedure.attempt surroundings c s.world = .ok (reply, w)) :
    ∀ rs, q.move c reply = .read rs → (rs.map q.key).Nodup :=
  fun rs reads => Rows.ownScanDistinct sound.own ((q.served served).2 rs reads)

theorem readByKnown {c : Call} {reply : Except StoreError c.Reply} {history : List Event}
    (reads : ∀ rs, held = some rs → rs ⊆ q.readBy history) :
    ∀ rs, (q.move c reply).known q.key held = some rs →
      rs ⊆ q.readBy (.called .dispatcher c reply :: history) := by
  intro rs known
  unfold readBy
  cases move : q.move c reply with
  | idle => rw [move] at known; exact reads rs known
  | read rs' => rw [move] at known; cases known; exact List.Subset.refl _
  | put _ => rw [move] at known; cases known
  | drop gone =>
    rw [move] at known
    obtain ⟨before, same, rfl⟩ := Option.map_eq_some_iff.mp known
    exact fun a member => reads before same (List.mem_of_mem_filter member)

theorem stepHolds (tended : q.Tended policy) (holds : q.Holds s seen held)
    (step : Shared.Step policy s s') : ∃ seen' held', q.Holds s' seen' held' := by
  have sound := holds.sound
  cases step with
  | begin side now free =>
    have next := tendedCycle tended side now
    cases side with
    | analyzer =>
      exact ⟨none, held, next, holds.dispatcher, ⟨sound.own, nofun, sound.vouched⟩,
        holds.reads⟩
    | dispatcher =>
      exact ⟨seen, none, holds.analyzer, next, ⟨sound.own, sound.covered, nofun⟩, nofun⟩
  | @call side c next surroundings reply w task served =>
    obtain ⟨after, reads⟩ := q.served served
    have distinct := readDistinct sound served
    cases side with
    | analyzer =>
      have conduct := task ▸ holds.analyzer
      obtain ⟨allowed, rest⟩ := conduct reply distinct
      refine ⟨_, held, rest, holds.dispatcher, ?_, holds.reads⟩
      exact (congrArg (q.Sound · _ _) after).mpr (analyzerMoves sound allowed reads)
    | dispatcher =>
      have conduct := task ▸ holds.dispatcher
      obtain ⟨allowed, rest⟩ := conduct reply distinct
      refine ⟨seen, _, holds.analyzer, rest, ?_, readByKnown holds.reads⟩
      exact (congrArg (q.Sound · _ _) after).mpr (dispatcherMoves sound allowed reads)
  | @halt side c next surroundings o task served =>
    cases side with
    | analyzer => exact ⟨seen, held, trivial, holds.dispatcher, sound, holds.reads⟩
    | dispatcher => exact ⟨seen, held, holds.analyzer, trivial, sound, holds.reads⟩
  | outside starts stops =>
    refine ⟨seen, held, holds.analyzer, holds.dispatcher, ?_, holds.reads⟩
    exact (congrArg (q.Sound · _ _) (q.pending starts stops)).mpr sound

theorem stepHistory (step : Shared.Step policy s s') : ∃ e, s'.history = e :: s.history := by
  cases step <;> exact ⟨_, rfl⟩

theorem runHistory (run : Shared.Run policy s s') : s.history <:+ s'.history := by
  induction run with
  | refl => exact List.suffix_rfl
  | tail _ step ih =>
    obtain ⟨e, same⟩ := stepHistory step
    exact same ▸ ih.trans (List.suffix_cons e _)

theorem analyzerStays (holds : q.Holds s seen held) (step : Shared.Step policy s s') {c : Call}
    {reply : Except StoreError c.Reply} (calls : s'.history = .called .analyzer c reply :: s.history) :
    q.Stays s s' := by
  cases step with
  | begin side now free => cases calls
  | halt task served => cases calls
  | outside starts stops => cases calls
  | @call side c' next surroundings reply' w task served =>
    cases calls
    have conduct := task ▸ holds.analyzer
    intro k row found
    refine (congrArg (Table.get? · k) (q.served served).1).trans ?_
    exact addedBeside holds.sound (conduct reply (readDistinct holds.sound served)).1 found

theorem stepLasts (holds : q.Holds s seen held) (step : Shared.Step policy s s') :
    q.Lasts q.same s s' := by
  intro k row found
  cases step with
  | begin side now free => exact .inl ⟨row, found, .inl rfl⟩
  | halt task served => exact .inl ⟨row, found, .inl rfl⟩
  | outside starts stops =>
    exact .inl ⟨row, (congrArg (Table.get? · k) (q.pending starts stops)).trans found, .inl rfl⟩
  | @call side c next surroundings reply w task served =>
    cases side with
    | analyzer =>
      have step : Shared.Step policy s _ := .call task served
      exact .inl ⟨row, analyzerStays holds step rfl k row found, .inl rfl⟩
    | dispatcher =>
      have conduct := task ▸ holds.dispatcher
      obtain ⟨allowed, _⟩ := conduct reply (readDistinct holds.sound served)
      rcases keptOrRemoved holds.sound allowed found with
        ⟨row', found', kept⟩ | ⟨gone, rs, drops, known, a, member, read, named, reads⟩
      · exact .inl ⟨row', (congrArg (Table.get? · k) (q.served served).1).trans found', kept⟩
      · obtain ⟨r, record, same⟩ := q.readRecord reads
        refine .inr ⟨[], _, s.history, rfl, List.suffix_rfl, a, ?_, holds.reads rs known read, named,
          r, record, q.sameId same⟩
        simpa [removed, drops] using member

theorem removedLater {k : String} {row : Row α} (gone : q.Removed s s' k row)
    (step : Shared.Step policy s' s'') : q.Removed s s'' k row := by
  obtain ⟨later, e, earlier, same, rest⟩ := gone
  obtain ⟨e', same'⟩ := stepHistory step
  exact ⟨e' :: later, e, earlier, by rw [same', same, List.cons_append], rest⟩

theorem removedSince {k : String} {row row' : Row α} (run : Shared.Run policy s s')
    (kept : row.Kept q.same row') (gone : q.Removed s' s'' k row') : q.Removed s s'' k row := by
  obtain ⟨later, e, earlier, same, since, a, member, read, named, r, record, id⟩ := gone
  refine ⟨later, e, earlier, same, (runHistory run).trans since, a, member, read, named, ?_⟩
  rcases kept with rfl | ⟨r₀, r₁, record₀, record₁, same⟩
  · exact ⟨r, record, id⟩
  · rw [record] at record₁
    cases record₁
    exact ⟨r₀, record₀, id.trans (q.sameId same)⟩

theorem runLasts (tended : q.Tended policy) (holds : q.Holds s seen held)
    (run : Shared.Run policy s s') :
    (∃ seen' held', q.Holds s' seen' held') ∧ q.Lasts q.same s s' := by
  induction run with
  | refl => exact ⟨⟨seen, held, holds⟩, fun k row found => .inl ⟨row, found, .inl rfl⟩⟩
  | @tail t t' before step ih =>
    obtain ⟨⟨seen', held', holds'⟩, lasts⟩ := ih
    refine ⟨stepHolds tended holds' step, fun k row found => ?_⟩
    rcases lasts k row found with ⟨row', found', kept⟩ | gone
    · rcases stepLasts holds' step k row' found' with ⟨row'', found'', kept'⟩ | gone
      · exact .inl ⟨row'', found'', keptTrans kept kept'⟩
      · exact .inr (removedSince before kept gone)
    · exact .inr (removedLater gone step)

theorem stepGuarded (holds : q.Holds s seen held) (guarded : q.Guarded (q.table s))
    (step : Shared.Step policy s s') : q.Guarded (q.table s') := by
  cases step with
  | begin side now free => exact guarded
  | halt task served => exact guarded
  | outside starts stops => exact (congrArg q.Guarded (q.pending starts stops)).mpr guarded
  | @call side c next surroundings reply w task served =>
    have distinct := readDistinct holds.sound served
    refine (congrArg q.Guarded (q.served served).1).mpr ?_
    cases side with
    | analyzer =>
      have conduct := task ▸ holds.analyzer
      exact addedGuarded guarded (conduct reply distinct).1
    | dispatcher =>
      have conduct := task ▸ holds.dispatcher
      exact stampedGuarded guarded holds.sound (conduct reply distinct).1

theorem runGuarded (tended : q.Tended policy) (holds : q.Holds s seen held)
    (guarded : q.Guarded (q.table s)) (run : Shared.Run policy s s') : q.Guarded (q.table s') := by
  induction run with
  | refl => exact guarded
  | tail before step ih =>
    obtain ⟨⟨seen', held', holds'⟩, _⟩ := runLasts tended holds before
    exact stepGuarded holds' ih step

theorem openingHolds (q : Queue α) (idle : ∀ side, s.tasks side = .done ())
    (own : Rows.Own q.key (q.table s)) : q.Holds s none none where
  analyzer := by rw [idle]; trivial
  dispatcher := by rw [idle]; trivial
  sound := ⟨own, nofun, nofun⟩
  reads := nofun

theorem savedLasts (tended : q.Tended policy) (idle : ∀ side, s.tasks side = .done ())
    (own : Rows.Own q.key (q.table s)) {t t' : Shared} (before : Shared.Run policy s t)
    (step : Shared.Step policy t t') {c : Call} {reply : Except StoreError c.Reply}
    (calls : t'.history = .called .analyzer c reply :: t.history) (later : Shared.Run policy t' s') :
    q.Stays t t' ∧ q.Lasts q.same t' s' := by
  obtain ⟨⟨seen, held, holds⟩, _⟩ := runLasts tended (openingHolds q idle own) before
  obtain ⟨seen', held', holds'⟩ := stepHolds tended holds step
  exact ⟨analyzerStays holds step calls, (runLasts tended holds' later).2⟩

theorem startsTended (policy : Policy) : starts.Tended policy :=
  ⟨analysisStarts policy, dispatchStarts policy⟩

theorem stopsTended (policy : Policy) : stops.Tended policy :=
  ⟨analysisStops policy, dispatchStops policy⟩

end Queue

namespace Shared
variable {policy : Policy} {s₀ s s' s'' : Shared}

/-- When an analysis is saved, no pending row gives way, and from then on each stays, a
stop but for its first sending, a start but for that and its priority, which is read
back from its text, until a dispatch cycle removes it that has read it. -/
theorem pendingLasts (opening : Opening s₀) (before : Run policy s₀ s) (step : Step policy s s')
    {starts : List Start} {stops : List Stop} {counts : List CrashCount} {reply : Except StoreError Unit}
    (saved : s'.history = .called .analyzer (.saveAnalysis starts stops counts) reply :: s.history)
    (later : Run policy s' s'') :
    (Queue.starts.Stays s s' ∧ Queue.stops.Stays s s') ∧
      Queue.starts.Lasts Start.Same s' s'' ∧ Queue.stops.Lasts Stop.Same s' s'' := by
  obtain ⟨startsStay, startsLast⟩ := Queue.savedLasts (Queue.startsTended policy) opening.idle
    opening.starts before step saved later
  obtain ⟨stopsStay, stopsLast⟩ := Queue.savedLasts (Queue.stopsTended policy) opening.idle
    opening.stops before step saved later
  exact ⟨⟨startsStay, stopsStay⟩, startsLast, stopsLast⟩

def webWants : Spec := ⟨⟨"web", "v1"⟩, 11, .started, .staged, 0⟩

def webReports : List Heartbeat :=
  (List.range 10).map (fun i => ⟨⟨"web", "v1"⟩, i, s!"g{i}", .running, 1000⟩) ++
    [⟨⟨"web", "v1"⟩, 10, "g10", .crashed, 1000⟩]

def quiet : Shared :=
  ⟨⟨((Store.empty (.ofSecs 30)).syncDesired [webWants] 1000).saveActual webReports 1000, []⟩,
    fun _ => .done (), []⟩

def bothBegun : Shared :=
  (List.replicate 2 Side.dispatcher ++ List.replicate 8 Side.analyzer).foldl (proceed {} 1000) quiet

def saved : Shared := bothBegun.proceed {} 1000 .analyzer

def settled : Shared := (List.replicate 11 Side.dispatcher).foldl (proceed {} 1000) saved

def drifting : Start :=
  ⟨⟨"web", "v1"⟩, 10, .crashed, .ofRatio 1 11, ⟨1, 1000, 0, 30, false⟩⟩

theorem quietOpening : Opening quiet := ⟨fun _ => rfl, Rows.ownEmpty, Rows.ownEmpty⟩

theorem savedNext : ∃ starts stops counts reply,
    saved.history = .called .analyzer (.saveAnalysis starts stops counts) reply :: bothBegun.history := by
  obtain ⟨e, same⟩ := Queue.stepHistory (proceedStep {} 1000 bothBegun .analyzer)
  have saves : (saved.history.head?.map Event.isSave) = some true := by decide +kernel
  rw [saved, same, List.head?_cons, Option.map_some, Option.some.injEq] at saves
  obtain ⟨starts, stops, counts, reply, rfl⟩ := Event.ofIsSave saves
  exact ⟨starts, stops, counts, reply, same⟩

theorem settledLasts : Opening quiet ∧ Run {} quiet bothBegun ∧ Step {} bothBegun saved ∧
    Run {} saved settled ∧ (Queue.starts.Stays bothBegun saved ∧ Queue.stops.Stays bothBegun saved) ∧
      Queue.starts.Lasts Start.Same saved settled ∧ Queue.stops.Lasts Stop.Same saved settled := by
  have before : Run {} quiet bothBegun := proceedRun _ _ _ _
  have step : Step {} bothBegun saved := proceedStep _ _ _ _
  have later : Run {} saved settled := proceedRun _ _ _ _
  obtain ⟨starts, stops, counts, reply, next⟩ := savedNext
  exact ⟨quietOpening, before, step, later, pendingLasts quietOpening before step next later⟩

theorem settledDrifts : Opening quiet ∧ Run {} quiet bothBegun ∧ Step {} bothBegun saved ∧
    (∃ starts stops counts reply, saved.history =
      .called .analyzer (.saveAnalysis starts stops counts) reply :: bothBegun.history) ∧
    Run {} saved settled ∧
      ¬ Queue.starts.Lasts
        (fun a b => b = { a with delivery := { a.delivery with sentOn := b.delivery.sentOn } })
        saved settled := by
  refine ⟨quietOpening, proceedRun _ _ _ _, proceedStep _ _ _ _, savedNext, proceedRun _ _ _ _, ?_⟩
  intro lasts
  have written : (Queue.starts.table saved).get? "web,v1,10" = some (.held drifting) := by
    decide +kernel
  have drifted : (Queue.starts.table settled).get? "web,v1,10" = some (.held { drifting with
      priority := ⟨false, 4591215111030249287⟩, delivery := ⟨1, 1000, 1000, 30, false⟩ }) := by
    decide +kernel
  rcases lasts _ _ written with ⟨row, found, kept⟩ | ⟨later, e, earlier, same, _, a, member, _⟩
  · rw [drifted] at found
    cases found
    rcases kept with same | ⟨r, r', record, record', same⟩
    · exact absurd same (by decide +kernel)
    · cases record
      cases record'
      exact absurd (congrArg Start.priority same) (by decide +kernel)
  · have none : (settled.history.all fun e => (Queue.starts.removed e).isEmpty) = true := by
      decide +kernel
    have empty := List.all_eq_true.mp none e (by rw [same]; simp)
    rw [List.isEmpty_iff.mp empty] at member
    cases member

end Shared
end Fleet
