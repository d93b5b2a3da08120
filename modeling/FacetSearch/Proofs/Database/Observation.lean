import FacetSearch.Search
import Mathlib.Tactic.Lemma

/-!
# Observed sessions

A session that is observed ends as it does otherwise. The metrics then tell how it ended.
-/

namespace FacetSearch

lemma Service.run_ofSession {α : Type} (session : Session α) (st : ServiceState) :
    (ofSession session).run st =
      ((session.run st.sent).1, { st with sent := (session.run st.sent).2 }) := rfl

namespace SearchEngine

variable {α : Type} {session : Session (ResultPage α)} {st : ServiceState} {sent : Log}

lemma run_observed_ok {page : ResultPage α} (h : session.run st.sent = (.ok page, sent))
    (search : SearchLabels) (seconds : Float) :
    (observed search seconds session).run st =
      (.ok page, ⟨sent, (st.metrics.recordSearch search "success" seconds).recordMatches
        search.domain page.count⟩) := by
  have hsession : Service.ofSession session st = (.ok page, { st with sent }) := by
    simp only [Service.ofSession, h]
  simp only [observed, bind, StateT.bind, StateT.run, hsession]
  rfl

lemma run_observed_error {fault : Fault} (h : session.run st.sent = (.error fault, sent))
    (search : SearchLabels) (seconds : Float) :
    (observed search seconds session).run st =
      (.error fault, ⟨sent, st.metrics.recordSearch search "error" seconds⟩) := by
  have hsession : Service.ofSession session st = (.error fault, { st with sent }) := by
    simp only [Service.ofSession, h]
  simp only [observed, bind, StateT.bind, StateT.run, hsession]
  rfl

end SearchEngine

end FacetSearch
