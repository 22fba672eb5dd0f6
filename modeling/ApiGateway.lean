import ApiGateway.Main
import ApiGateway.Workspace
import ApiGateway.Json.Reader
import ApiGateway.Proofs.Terraform.Routes
import ApiGateway.Proofs.Terraform.TreeFree
import ApiGateway.Proofs.Lint.Account
import ApiGateway.Proofs.ResourceTree.Places
import ApiGateway.Proofs.Terraform.Growth
import ApiGateway.Proofs.Workspace.Run
import ApiGateway.Proofs.Terraform.Rearrangement
import ApiGateway.Proofs.Terraform.Failure
import ApiGateway.Proofs.CommandLine.Arguments
import ApiGateway.Proofs.CommandLine.Files
import ApiGateway.Proofs.CommandLine.Run
import ApiGateway.Proofs.Terraform.Layout
import ApiGateway.Proofs.Terraform.Reading
import ApiGateway.Proofs.CommandLine.Strict
import ApiGateway.Proofs.ResourceTree.Listing
import ApiGateway.Proofs.Terraform.Parentage
import ApiGateway.Proofs.Terraform.Precedence
import ApiGateway.Proofs.Path.Segmentation
import ApiGateway.Proofs.ResourceTree.Naming
import ApiGateway.Proofs.Terraform.Literal
import ApiGateway.Proofs.CommandLine.Single
import ApiGateway.Proofs.Endpoint.Decoding
import ApiGateway.Proofs.Json.RoundTrip
import ApiGateway.Proofs.ResourceTree.Json
import ApiGateway.Proofs.ResourceTree.Insertion
import ApiGateway.Proofs.ResourceTree.ParentsFirst
import ApiGateway.Proofs.Terraform.Confinement
import ApiGateway.Proofs.Terraform.Identifier
