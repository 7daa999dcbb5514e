import Fleet.Arrange
import Fleet.Service
import Fleet.Settings

/-! When a service does its duties: each is due again one period after it was due, the
buffer is flushed every second, and no duty is due at once. Times are milliseconds. -/
namespace Fleet

structure Timer where
  duty : Duty
  period : Nat
  due : Nat
  deriving DecidableEq, Repr

structure Agenda where
  first : Timer
  others : List Timer
  deriving DecidableEq, Repr

namespace Agenda

def dueBefore (a b : Timer) : Bool := a.due ≤ b.due

def next (a : Agenda) : Agenda :=
  match putBefore dueBefore { a.first with due := a.first.due + a.first.period } a.others with
  | first :: others => ⟨first, others⟩
  | [] => a

def millis (s : Span) : Nat := s.nanos / 1000000

def start (d : Durations) (now : Nat) : Agenda :=
  let timer := fun (duty : Duty) (period : Nat) => Timer.mk duty period (now + period)
  let timers := arrange dueBefore [timer .analysis (millis d.analysisInterval),
    timer .dispatch (millis d.sendInterval)]
  match putBefore dueBefore (timer .intake 1000) timers with
  | first :: others => ⟨first, others⟩
  | [] => ⟨timer .intake 1000, []⟩

end Agenda
end Fleet
