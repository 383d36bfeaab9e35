import BenchReport.Chart.Spec
import BenchReport.Table.Loading
import BenchReport.View

namespace BenchReport

inductive Renderer where
  | grouped (spec : ChartSpec)
  | utilization
deriving DecidableEq

def utilizationSpec : ChartSpec where
  metric := Column.leafUtilization
  fileStem := "leaf_utilization"
  title := "Leaf Utilization vs. Sortedness"
  yLabel := "Leaf Utilization"
  kind := .utilization

namespace Renderer

def spec : Renderer → ChartSpec
  | grouped s => s
  | utilization => utilizationSpec

end Renderer

structure ManifestEntry where
  renderer : Renderer
  required : Bool := false
  supersededBy : Option String := none
deriving DecidableEq

namespace ManifestEntry

def spec (e : ManifestEntry) : ChartSpec := e.renderer.spec

def metric (e : ManifestEntry) : String := e.spec.metric

end ManifestEntry

abbrev Manifest := List ManifestEntry

namespace Manifest

def bars (metric fileStem title yLabel : String) : ChartSpec :=
  { metric, fileStem, title, yLabel, kind := .bar }

def speedupLines (metric fileStem title : String) : ChartSpec :=
  { metric, fileStem, title, yLabel := "Speedup Factor", kind := .line, referenceLine := some 1 }

def optional (spec : ChartSpec) : ManifestEntry := { renderer := .grouped spec }

def standard : Manifest :=
  [{ renderer := .grouped (bars Column.insertTime "insert_performance"
        "Insert Performance vs. Sortedness" "Insert Time (ms/op)")
     required := true },
    optional (bars Column.pointLookupTime "point_lookup_performance"
      "Point Lookup Performance vs. Sortedness" "Point Lookup Time (ms/op)"),
    optional (bars Column.searchTime "search_performance"
      "Search Performance vs. Sortedness" "Search Time (ms)"),
    optional (bars Column.rangeQueryTime "range_query_performance"
      "Range Query Performance vs. Sortedness" "Range Query Time (ms/query)"),
    optional (bars Column.mixedWorkloadTime "mixed_workload_performance"
      "Mixed Workload Performance vs. Sortedness" "Mixed Workload Time (ms/op)"),
    optional (speedupLines Column.insertSpeedup "insert_speedup"
      "Insert Speedup vs. Sortedness"),
    optional (speedupLines Column.pointLookupSpeedup "point_lookup_speedup"
      "Point Lookup Speedup vs. Sortedness"),
    optional (speedupLines Column.searchSpeedup "search_speedup"
      "Search Speedup vs. Sortedness"),
    optional (bars Column.fastPathHitRate "fast_path_hit_rate"
      "Fast Path Hit Rate vs. Sortedness" "Fast Path Hit Rate (%)"),
    { optional (bars Column.fastPathHits "fast_path_hits"
        "Fast Path Usage vs. Sortedness" "Fast Path Hits") with
      supersededBy := some Column.fastPathHitRate },
    optional (bars Column.sortedLeafSearch "sorted_leaf_search"
      "Sorted Leaf Searches vs. Sortedness" "Sorted Leaf Searches"),
    optional (bars Column.leafCount "leaf_count" "Leaf Count vs. Sortedness" "Leaf Count"),
    optional (bars Column.nodeCount "node_count" "Node Count vs. Sortedness" "Node Count"),
    { renderer := .utilization }]

def skip? (t : Table) (e : ManifestEntry) : Option Event :=
  if !t.hasColumn e.metric then some (.columnMissing e.spec.fileStem e.metric)
  else
    match e.supersededBy with
    | none => none
    | some other =>
      if t.hasColumn other then some (.superseded e.spec.fileStem other) else none

def firstMissing? (m : Manifest) (t : Table) : Option ManifestEntry :=
  m.find? fun e => e.required && !t.hasColumn e.metric

def plan (m : Manifest) (v : View) : Except DataFault (List ManifestEntry) :=
  match m.firstMissing? v.table with
  | some e => .error (.missingColumn e.metric v.table.source)
  | none => .ok (m.filter fun e => (skip? v.table e).isNone)

def planEvents (m : Manifest) (v : View) : List Event :=
  match m.firstMissing? v.table with
  | some _ => []
  | none => m.filterMap (skip? v.table)

end Manifest

end BenchReport
