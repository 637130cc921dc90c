import Pipework.Main
import Pipework.Proofs.Configuration.Dump
import Pipework.Proofs.Filter.CharacterSets
import Pipework.Proofs.Filter.Projection
import Pipework.Proofs.Pipeline.Identity
import Pipework.Proofs.Preview.Lines
import Pipework.Proofs.Preview.Staged
import Pipework.Proofs.Step.Loading
import Pipework.Step.Listing
