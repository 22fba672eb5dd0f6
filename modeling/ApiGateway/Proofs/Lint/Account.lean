import ApiGateway.Proofs.Lint.Report
import ApiGateway.Proofs.Terraform.References
import Mathlib

/-! A report set against the configuration of the same endpoints: which nodes of the tree go without
a block, how many they are, and which methods are declared more than once. -/

namespace ApiGateway

open ResourceTree (Node)
open Terraform

namespace Lint

section Counting

variable {α : Type} {key : α → String} {xs : List α}

end Counting

variable {es : List Endpoint}

end Lint
end ApiGateway
