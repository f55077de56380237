import BooleanSearch.Main
import BooleanSearch.Query.Candidate
import BooleanSearch.Query.Token
import BooleanSearch.Proofs.Query.Joining
import BooleanSearch.Proofs.Query.Partition
import BooleanSearch.Proofs.Query.Locating
import BooleanSearch.Proofs.Query.Tiling
import BooleanSearch.Proofs.Query.Signing
import BooleanSearch.Proofs.Query.Alternatives
import BooleanSearch.Proofs.Query.MaximalRuns
import BooleanSearch.Proofs.Settings.Roots
import BooleanSearch.Proofs.Settings.Merging
import BooleanSearch.Proofs.Settings.Written
import BooleanSearch.Proofs.Settings.Timeouts
import BooleanSearch.Proofs.Backend.Polling
import BooleanSearch.Proofs.Backend.Endings
import BooleanSearch.Proofs.Backend.Listing
import BooleanSearch.Proofs.Command.IndexContent
import BooleanSearch.Proofs.Command.Levels
import BooleanSearch.Proofs.Log.Thresholds
