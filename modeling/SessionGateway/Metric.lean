import SessionGateway.Http.Message
import SessionGateway.Path

/-!
# Metrics

The two counters of a gateway: requests served, by kind of path and status,
and configuration updates applied.  What is recorded is a list of increments;
`Metric.count` is the value of a counter.
-/

namespace SessionGateway

/-- A counter. -/
inductive Metric where
  | requests (kind : Path.Kind) (status : Http.Status)
  | reloads
  deriving DecidableEq, Repr

namespace Metric

/-- The name of a counter with its labels. -/
def name : Metric → String
  | requests kind status =>
      "sockjs_requests_total\x7bkind=" ++ kind.label ++ ",status=" ++ toString status.code ++
        "\x7d"
  | reloads => "sockjs_config_reloads_total\x7b\x7d"

/-- The value of a counter after some increments. -/
def count (increments : List Metric) (metric : Metric) : Nat :=
  List.count metric increments

end Metric

end SessionGateway
