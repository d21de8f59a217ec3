import GitopsToolkit.Core.Object
import GitopsToolkit.Storage.Branch
import GitopsToolkit.Storage.FileFinder
import GitopsToolkit.Storage.Consistency
import GitopsToolkit.Storage.Reset
import GitopsToolkit.Storage.Partition
import GitopsToolkit.Storage.Concurrent
import GitopsToolkit.Storage.Refinement
import GitopsToolkit.Storage.Goroutines
import GitopsToolkit.Storage.PathIndex
import GitopsToolkit.Storage.Observation
import GitopsToolkit.Storage.Commute
import GitopsToolkit.Storage.Abstraction
import GitopsToolkit.Serializer.Convertor
import GitopsToolkit.Watch.Concatenate
