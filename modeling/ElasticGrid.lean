import ElasticGrid.Workbook
import ElasticGrid.Value
import ElasticGrid.Proofs.Refusal
import ElasticGrid.Proofs.Duality
import ElasticGrid.Proofs.Conservation
import ElasticGrid.Proofs.Alike
import ElasticGrid.Proofs.Symmetry
import ElasticGrid.Proofs.Parallel
import ElasticGrid.Proofs.Indifference
import ElasticGrid.Proofs.Acceptance
import ElasticGrid.Proofs.Equality
import ElasticGrid.Proofs.Literals
import ElasticGrid.Proofs.Reading
import ElasticGrid.Proofs.Chronicle
import ElasticGrid.Proofs.Environment
import ElasticGrid.Proofs.Insertion
import ElasticGrid.Proofs.Replacement
import ElasticGrid.Proofs.BoundingBox
import ElasticGrid.Proofs.Pairing
import ElasticGrid.Proofs.Alignment
import ElasticGrid.Proofs.Visibility
import ElasticGrid.Proofs.Detour
import ElasticGrid.Proofs.Exchange
import ElasticGrid.Proofs.Lookup
import ElasticGrid.Proofs.Transpositions
import ElasticGrid.Proofs.Views
import ElasticGrid.Proofs.Layers
import ElasticGrid.Proofs.Escapes
import ElasticGrid.Proofs.Counting
import ElasticGrid.Proofs.Enumeration
import ElasticGrid.Proofs.Reversals
import ElasticGrid.Proofs.Numerals
import ElasticGrid.Proofs.Keys
import ElasticGrid.Proofs.Addressing
