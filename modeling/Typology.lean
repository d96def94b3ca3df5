import Typology.Main
import Typology.FileTree
import Typology.Proofs.Standing
import Typology.Proofs.Reflection
import Typology.Proofs.Run
import Typology.Proofs.Alignment
import Typology.Proofs.BuiltSet
import Typology.Proofs.FirstFailure
import Typology.Proofs.Rows
import Typology.Proofs.Selection
import Typology.Proofs.Judging
import Typology.Proofs.FieldFirst
import Typology.Proofs.ElementCount
import Typology.Proofs.Ordering
import Typology.Proofs.SingleValue
import Typology.Proofs.FloatDistance
import Typology.Proofs.EveryTarget
import Typology.Proofs.Verdicts
import Typology.Proofs.Opposites
import Typology.Proofs.RequestOrder
import Typology.Proofs.Availability
import Typology.Proofs.Label
import Typology.Proofs.SuffixNumbering
import Typology.Proofs.NameIndex
import Typology.Proofs.Naming
import Typology.Proofs.Frequencies
import Typology.Proofs.Accounting
import Typology.Proofs.Snapshots
import Typology.Proofs.Guarding
import Typology.Proofs.Histories
import Typology.Proofs.Dictionaries
import Typology.Proofs.Entries
import Typology.Proofs.Records
import Typology.Proofs.ByteOrder
import Typology.Proofs.Slots
import Typology.Proofs.FiniteFloat
import Typology.Proofs.Stored
import Typology.Proofs.Distinctness
import Typology.Proofs.QueryLayout
import Typology.Proofs.OneOrdering
import Typology.Proofs.Pieces
import Typology.Proofs.Numerals
import Typology.Proofs.Reencoding
import Typology.Proofs.StandardRegistry
import Typology.Proofs.TextTests
import Typology.Proofs.Building
import Typology.Proofs.GivenSets
import Typology.Proofs.NamedDataset
import Typology.Proofs.SetOperators
