import LinkAdaptation.Station.Feedback
/-!
# Reports to a station

A report touches the observed SNR and two counters of a station, and nothing else (`Station.apply_fst`): it gives an SNR
that is taken, it gives one that cannot be used, or it says nothing of an SNR.
-/
namespace LinkAdaptation

namespace Feedback

/-- The SNR that a report makes the observed one: that of an answer to an RTS frame whatever it is, that of an answer to a
data frame if it is a measurement. -/
def accepted? : Feedback → Option Float
  | .rtsAnswered _ snr => some snr
  | .dataAnswered _ snr | .aggregateAnswered _ _ _ snr => if snr.isFinite && 0.0 < snr then some snr else none
  | _ => none

/-- Whether a report is an answer to frames of this end. -/
def isAnswer : Feedback → Bool
  | .rtsAnswered .. | .dataAnswered .. | .aggregateAnswered .. => true
  | _ => false

/-- What a report adds to the counters. -/
def counted (f : Feedback) (c : Counters) : Counters :=
  if !f.isAnswer then c
  else if f.accepted?.isSome then { c with snrUpdates := c.snrUpdates + 1 }
  else { c with discardedReports := c.discardedReports + 1 }

end Feedback

namespace Station

theorem observeMeasured_fst (st : Station) (snr : Float) :
    (st.observeMeasured snr).1 =
      match (if snr.isFinite && 0.0 < snr then some snr else none : Option Float) with
      | some x => st.observe x
      | none => st.discard := by
  unfold observeMeasured isMeasured
  split <;> rfl

/-- **What a report does to a station.** -/
theorem apply_fst (st : Station) (f : Feedback) :
    (st.apply f).1 = { st with observed := f.accepted?.getD st.observed, counters := f.counted st.counters } := by
  have hmeasured : ∀ (g : Feedback) (snr : Float), g.isAnswer = true →
      g.accepted? = (if snr.isFinite && 0.0 < snr then some snr else none : Option Float) →
      (st.observeMeasured snr).1 =
        { st with observed := g.accepted?.getD st.observed, counters := g.counted st.counters } := by
    intro g snr hanswer haccepted
    rw [observeMeasured_fst, Feedback.counted, hanswer, haccepted]
    cases (if snr.isFinite && 0.0 < snr then some snr else none : Option Float) <;> rfl
  cases f with
  | rtsAnswered cts rts => rfl
  | dataAnswered ack data => exact hmeasured _ data rfl rfl
  | aggregateAnswered arrived lost heard data => exact hmeasured _ data rfl rfl
  | frameHeard heard => rfl
  | rtsFailed => rfl
  | dataFailed => rfl
  | rtsAbandoned => rfl
  | dataAbandoned => rfl

end Station
end LinkAdaptation
