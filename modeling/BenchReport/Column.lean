
namespace BenchReport.Column

def treeType := "TreeType"
def sortedness := "Sortedness"
def readRatio := "ReadRatio"

def insertTime := "InsertTime"
def pointLookupTime := "PointLookupTime"
def searchTime := "SearchTime"
def rangeQueryTime := "RangeQueryTime"
def mixedWorkloadTime := "MixedWorkloadTime"
def leafCount := "LeafCount"
def nodeCount := "NodeCount"
def leafUtilization := "LeafUtilization"
def fastPathHits := "FastPathHits"
def sortedLeafSearch := "SortedLeafSearch"

def sortednessPercent := "SortednessPercent"
def fastPathHitRate := "FastPathHitRate"
def insertSpeedup := "InsertSpeedup"
def pointLookupSpeedup := "PointLookupSpeedup"
def searchSpeedup := "SearchSpeedup"

def speedups : List (String × String) :=
  [(insertTime, insertSpeedup), (pointLookupTime, pointLookupSpeedup), (searchTime, searchSpeedup)]

end BenchReport.Column
