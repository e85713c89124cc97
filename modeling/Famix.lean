import Famix.Description.Draft
import Famix.Main
import Famix.Proofs.Rollback
import Famix.Proofs.LineByLine
import Famix.Proofs.Construction
import Famix.Proofs.Parts
import Famix.Proofs.Termination
import Famix.Proofs.Halting
import Famix.Proofs.Faults
import Famix.Proofs.Regrouping
import Famix.Proofs.Spelling
import Famix.Proofs.Unrolling
import Famix.Proofs.Alternatives
import Famix.Proofs.History
import Famix.Proofs.Truncation
import Famix.Proofs.Layout
import Famix.Proofs.Lines
import Famix.Proofs.TypedModels
import Famix.Proofs.Openings
import Famix.Proofs.Barren
import Famix.Proofs.Persistence
import Famix.Proofs.DialogueEnding
import Famix.Proofs.Replacement
import Famix.Proofs.FileRunEnding
import Famix.Proofs.FileRunEffect
import Famix.Proofs.DialogueScript
import Famix.Proofs.Snapshots
import Famix.Proofs.Charts
import Famix.Proofs.TextFiles
import Famix.Proofs.StoppingPlaces
