import L1.Number.Binary64
import L1.Number.Literal
import L1.Number.Basic
import L1.Text.Basic
import L1.Text.Quote
import L1.Value
import L1.Node
import L1.Apply
import L1.Env
import L1.Eval
import L1.Request
import L1.Proofs.Sequence
import L1.Proofs.Escape
import L1.Proofs.Lookup
import L1.Proofs.Truthy
import L1.Proofs.Extension
import L1.Proofs.Compare
import L1.Proofs.Fold
import L1.Proofs.ResultKind
import L1.Proofs.Application
import L1.Proofs.Chain
