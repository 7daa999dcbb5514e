import Fleet.Settings.File
import Fleet.Proofs.Lists
import Fleet.Proofs.SpanTexts

/-! What the checks of the settings answer. The nine spans are read in their order, then
come the longest delay, the intervals and the endpoint, and the first fault is the one that
is reported. Only a number of minutes or hours that is beyond the longest span is no fault
here: its seconds are more than can be counted, and the checks come to no answer. -/
namespace Fleet

def Durations.inOrder (d : Durations) : List Span :=
  [d.heartbeatTtl, d.freshnessTtl, d.gracePeriod, d.analysisInterval, d.sendInterval,
    d.startingDelay, d.maximumDelay, d.counterTtl, d.timeout]

namespace Settings
variable {s : Settings} {d : Durations}

def texts (s : Settings) : List (String × String) := [
  ("store.heartbeat_ttl", s.store.heartbeatTtl),
  ("store.freshness_ttl", s.store.freshnessTtl),
  ("convergence.grace_period", s.convergence.gracePeriod),
  ("convergence.analysis_interval", s.convergence.analysisInterval),
  ("convergence.send_interval", s.convergence.sendInterval),
  ("crash_backoff.starting_delay", s.backoff.startingDelay),
  ("crash_backoff.maximum_delay", s.backoff.maximumDelay),
  ("crash_backoff.counter_ttl", s.backoff.counterTtl),
  ("transport.timeout", s.transport.timeout)]

def Resolves (s : Settings) (d : Durations) : Prop :=
  List.Forall₂ (fun text span => Span.Means text.2 span) s.texts d.inOrder

def Reaches (s : Settings) (key text : String) : Prop :=
  ∃ front rest, s.texts = front ++ (key, text) :: rest ∧
    ∀ other ∈ front, ∃ span, Span.Means other.2 span

inductive Answers (s : Settings) : Except SettingsError Durations → Prop
  | span {key text : String} (reaches : Reaches s key text) (none : ∀ d, ¬ Span.Means text d) :
      Answers s (.error (.duration key text))
  | delay {d : Durations} (resolves : Resolves s d)
      (short : d.maximumDelay.nanos < d.startingDelay.nanos) :
      Answers s (.error (.invalid "crash_backoff.maximum_delay" "must not be shorter than starting_delay"))
  | interval {d : Durations} (resolves : Resolves s d)
      (grows : d.startingDelay.nanos ≤ d.maximumDelay.nanos)
      (idle : d.analysisInterval.nanos = 0 ∨ d.sendInterval.nanos = 0) :
      Answers s (.error (.invalid "convergence" "cycle intervals must be non-zero"))
  | endpoint {d : Durations} (resolves : Resolves s d)
      (grows : d.startingDelay.nanos ≤ d.maximumDelay.nanos)
      (cycles : d.analysisInterval.nanos ≠ 0 ∧ d.sendInterval.nanos ≠ 0)
      (blank : ∀ c ∈ s.transport.endpoint.toList, Text.isBlank c = true) :
      Answers s (.error (.invalid "transport.endpoint" "must not be empty"))
  | accepted {d : Durations} (resolves : Resolves s d)
      (grows : d.startingDelay.nanos ≤ d.maximumDelay.nanos)
      (cycles : d.analysisInterval.nanos ≠ 0 ∧ d.sendInterval.nanos ≠ 0)
      (named : ∃ c ∈ s.transport.endpoint.toList, Text.isBlank c = false) :
      Answers s (.ok d)

def Overruns (s : Settings) : Prop := ∃ key text, Reaches s key text ∧ Span.TooLong text

theorem spanOk {key text : String} {d : Span} : span key text = .ok d ↔ Span.Means text d := by
  rw [← Span.ofTextMeans, span]
  rcases Span.ofText text with o | (_ | d') <;> simp

theorem spanError {key text : String} {e : SettingsError} (read : span key text = .error e) :
    (∀ d, ¬ Span.Means text d) ∧ (Span.TooLong text ∧ e = .overflow .product ∨
      ¬ Span.TooLong text ∧ e = .duration key text) := by
  refine ⟨fun d means => ?_, ?_⟩
  · cases read.symm.trans (spanOk.mpr means)
  · rcases Span.ofTextEither text with ⟨_, means, is⟩ | ⟨long, is⟩ | ⟨none, is⟩ <;>
      rw [span, is] at read <;> cases read
    · exact .inl ⟨long, rfl⟩
    · exact .inr ⟨fun ⟨n, scale, spelled, _⟩ => none n scale spelled, rfl⟩

theorem spansInOrder (s : Settings) :
    s.spans.map Durations.inOrder = s.texts.mapM fun text => span text.1 text.2 := by
  change Durations.inOrder <$> s.spans = _
  simp only [spans, texts, List.mapM_cons, List.mapM_nil, map_bind, bind_assoc, pure_bind]
  rfl

theorem spansOk : s.spans = .ok d ↔ Resolves s d := by
  have each : s.texts.mapM (fun text => span text.1 text.2) = .ok d.inOrder ↔ Resolves s d := by
    simp only [mapMOk, spanOk, Resolves]
  rw [← each, ← spansInOrder]
  cases s.spans with
  | error e => simp [Except.map]
  | ok d' =>
    refine ⟨fun same => congrArg (Except.map Durations.inOrder) same, fun same => ?_⟩
    cases d
    cases d'
    simpa [Except.map, Durations.inOrder] using same

theorem spansError {e : SettingsError} : s.spans = .error e ↔ ∃ key text, Reaches s key text ∧
    span key text = .error e := by
  have same : s.spans = .error e ↔
      s.texts.mapM (fun text => span text.1 text.2) = .error e := by
    rw [← spansInOrder]
    cases s.spans <;> simp [Except.map]
  rw [same, mapMError]
  simp only [spanOk]
  constructor
  · rintro ⟨front, ⟨key, text⟩, rest, split, read, failed⟩
    exact ⟨key, text, ⟨front, rest, split, read⟩, failed⟩
  · rintro ⟨key, text, ⟨front, rest, split, read⟩, failed⟩
    exact ⟨front, (key, text), rest, split, read, failed⟩

theorem overrunsResolve (overruns : Overruns s) : s.resolve = .error (.overflow .product) := by
  obtain ⟨key, text, reaches, long⟩ := overruns
  have failed : s.spans = .error (.overflow .product) :=
    spansError.mpr ⟨key, text, reaches, by rw [span, Span.ofTextTooLong.mpr ⟨long, rfl⟩]⟩
  rw [resolve, failed]
  rfl

theorem resolvesResolve (resolves : Resolves s d) : s.resolve =
    if d.maximumDelay.nanos < d.startingDelay.nanos then
      .error (.invalid "crash_backoff.maximum_delay" "must not be shorter than starting_delay")
    else if d.analysisInterval.nanos = 0 ∨ d.sendInterval.nanos = 0 then
      .error (.invalid "convergence" "cycle intervals must be non-zero")
    else if Text.Blank s.transport.endpoint.toList then
      .error (.invalid "transport.endpoint" "must not be empty")
    else .ok d := by
  rw [resolve, spansOk.mpr resolves]
  simp only [bind, Except.bind, Span.isZero, Bool.or_eq_true, decide_eq_true_eq, List.isEmpty_iff,
    Text.trimEmpty]

theorem answersResolve (s : Settings) (within : ¬ Overruns s) : Answers s s.resolve := by
  cases read : s.spans with
  | error e =>
    obtain ⟨key, text, reaches, failed⟩ := spansError.mp read
    obtain ⟨none, ⟨long, _⟩ | ⟨_, rfl⟩⟩ := spanError failed
    · exact absurd ⟨key, text, reaches, long⟩ within
    · rw [resolve, read]
      exact .span reaches none
  | ok d =>
    have resolves := spansOk.mp read
    rw [resolvesResolve resolves]
    split
    · rename_i short
      exact .delay resolves short
    rename_i grows
    split
    · rename_i idle
      exact .interval resolves (Nat.le_of_not_lt grows) idle
    rename_i cycles
    split
    · rename_i blank
      exact .endpoint resolves (Nat.le_of_not_lt grows) (not_or.mp cycles) blank
    rename_i named
    exact .accepted resolves (Nat.le_of_not_lt grows) (not_or.mp cycles) (by simpa [Text.Blank] using named)

theorem answersOnly {r : Except SettingsError Durations} (within : ¬ Overruns s) (answers : Answers s r) :
    s.resolve = r := by
  cases answers with
  | span reaches none =>
    rename_i key text
    have failed : Settings.span key text = .error (.duration key text) := by
      cases failed : Settings.span key text with
      | ok d => exact absurd (spanOk.mp failed) (none d)
      | error e =>
        obtain ⟨_, ⟨long, _⟩ | ⟨_, rfl⟩⟩ := spanError failed
        · exact absurd ⟨key, text, reaches, long⟩ within
        · rfl
    rw [resolve, spansError.mpr ⟨key, text, reaches, failed⟩]
    rfl
  | delay resolves short => rw [resolvesResolve resolves, if_pos short]
  | interval resolves grows idle =>
    rw [resolvesResolve resolves, if_neg (Nat.not_lt_of_le grows), if_pos idle]
  | endpoint resolves grows cycles blank =>
    rw [resolvesResolve resolves, if_neg (Nat.not_lt_of_le grows), if_neg (not_or.mpr cycles),
      if_pos (show Text.Blank _ from blank)]
  | accepted resolves grows cycles named =>
    rw [resolvesResolve resolves, if_neg (Nat.not_lt_of_le grows), if_neg (not_or.mpr cycles),
      if_neg (by simpa [Text.Blank] using named)]

theorem checksAnswer (s : Settings) :
    (¬ Overruns s ∧ ∀ r, s.resolve = r ↔ Answers s r) ∨
    (Overruns s ∧ s.resolve = .error (.overflow .product)) := by
  by_cases overruns : Overruns s
  · exact .inr ⟨overruns, overrunsResolve overruns⟩
  · refine .inl ⟨overruns, fun r => ⟨?_, answersOnly overruns⟩⟩
    rintro rfl
    exact answersResolve s overruns

def withGrace (grace : String) : Settings where
  store := ⟨"/var/lib/steward/steward.redb", "30s", "60s"⟩
  convergence := ⟨grace, "10s", "10s", 30⟩
  backoff := ⟨3, "30s", "16m", "32m"⟩
  transport := ⟨"127.0.0.1:9022", "5s"⟩
  api := ⟨9030⟩

/-- Its seconds are beyond 64 bits, so it is no grace period; yet that is not what is said of it. -/
theorem endlessGraceUnanswered :
    Answers (withGrace "400000000000000000m")
      (.error (.duration "convergence.grace_period" "400000000000000000m")) ∧
    (withGrace "400000000000000000m").resolve = .error (.overflow .product) ∧
    ¬ Answers (withGrace "400000000000000000m") (withGrace "400000000000000000m").resolve := by
  have halted : (withGrace "400000000000000000m").resolve = .error (.overflow .product) := by
    decide +kernel
  have unread : Settings.span "convergence.grace_period" "400000000000000000m" =
      .error (.overflow .product) := by decide +kernel
  have heartbeat : Settings.span "store.heartbeat_ttl" "30s" = .ok (.ofSecs 30) := by decide +kernel
  have freshness : Settings.span "store.freshness_ttl" "60s" = .ok (.ofSecs 60) := by decide +kernel
  have reaches : Reaches (withGrace "400000000000000000m") "convergence.grace_period"
      "400000000000000000m" := by
    refine ⟨[("store.heartbeat_ttl", "30s"), ("store.freshness_ttl", "60s")], _, rfl, ?_⟩
    simp only [List.forall_mem_cons]
    exact ⟨⟨_, spanOk.mp heartbeat⟩, ⟨_, spanOk.mp freshness⟩, nofun⟩
  refine ⟨.span reaches (spanError unread).1, halted, ?_⟩
  rw [halted]
  rintro ⟨⟩

theorem ofTextResolved {text : String} {s : Settings} (accepted : ofText text = .ok s) :
    ∃ d, s.resolve = .ok d := by
  unfold ofText at accepted
  split at accepted
  · cases accepted
  · rename_i read _
    cases resolved : read.resolve with
    | error e => simp [resolved, Except.map] at accepted
    | ok d =>
      rw [resolved] at accepted
      obtain rfl : read = s := Except.ok.inj accepted
      exact ⟨d, resolved⟩

end Settings
end Fleet
