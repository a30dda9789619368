import CompoundFile.Bytes
import CompoundFile.Words
import CompoundFile.Marks
import CompoundFile.Text.Utf16
import CompoundFile.Text.Utf8
import CompoundFile.Text.Blank
import CompoundFile.Text.Hex
import CompoundFile.Text.Uppercase
import CompoundFile.Text.Quoted
import CompoundFile.Codepage
import CompoundFile.ClassId
import CompoundFile.Filetime
import CompoundFile.Header
import CompoundFile.Chain
import CompoundFile.Directory.Tree
import CompoundFile.PropertySet
import CompoundFile.Stream
import CompoundFile.Fat
import CompoundFile.Item
import CompoundFile.Contents
import CompoundFile.Session
import CompoundFile.Stream.Script
import CompoundFile.Session.Snapshot
import CompoundFile.Session.Command
import CompoundFile.Session.Client
import CompoundFile.Proofs.LittleEndian
import CompoundFile.Proofs.Codepage
import CompoundFile.Proofs.Fetch
import CompoundFile.Proofs.Loading
import CompoundFile.Proofs.Stream.Place
import CompoundFile.Proofs.Stream.Reading
import CompoundFile.Proofs.Stream.Pieces
import CompoundFile.Proofs.Chain
import CompoundFile.Proofs.Sectors
import CompoundFile.Proofs.Fat
import CompoundFile.Proofs.Stream.Cursor
import CompoundFile.Proofs.Stream.Agreement
import CompoundFile.Proofs.Directory.Acceptance
import CompoundFile.Proofs.Directory.Shape
import CompoundFile.Proofs.Directory.Walk
import CompoundFile.Proofs.Directory.Paths
import CompoundFile.Proofs.Directory.Warnings
import CompoundFile.Proofs.Directory.Order
import CompoundFile.Proofs.Stream.ShortSectors
import CompoundFile.Proofs.Session.Agreement
import CompoundFile.Proofs.Session.History
import CompoundFile.Proofs.Stream.Extent
import CompoundFile.Proofs.Stream.Failure
import CompoundFile.Proofs.PropertySet.Vectors
import CompoundFile.Proofs.PropertySet.RoundTrip
import CompoundFile.Proofs.PropertySet.Fallback
import CompoundFile.Proofs.PropertySet.TableOrder
import CompoundFile.Proofs.PropertySet.Growth
import CompoundFile.Proofs.Bounds.Walks
import CompoundFile.Proofs.Bounds.Entries
import CompoundFile.Proofs.Bounds.Sessions
import CompoundFile.Proofs.Difat
import CompoundFile.Proofs.Identity
import CompoundFile.Proofs.Session.Lifecycle
import CompoundFile.Proofs.Directory.Sorted
import CompoundFile.Proofs.Session.Lookup
import CompoundFile.Proofs.Stream.AddressMap
import CompoundFile.Proofs.Stream.Separation
import CompoundFile.Proofs.Words
import CompoundFile.Proofs.Calendar
import CompoundFile.Proofs.Filetime
import CompoundFile.Proofs.Geometry
import CompoundFile.Proofs.Header
import CompoundFile.Proofs.Directory.RoundTrip
