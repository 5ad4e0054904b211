import NodeClient.Main
import NodeClient.Proofs.Address.HostPort
import NodeClient.Proofs.Client.Body
import NodeClient.Proofs.Client.Freed
import NodeClient.Proofs.CommandLine.ItemFile
import NodeClient.Proofs.CommandLine.Verdict
import NodeClient.Proofs.Config.Address
import NodeClient.Proofs.Config.Precedence
import NodeClient.Proofs.Config.Usable
import NodeClient.Proofs.Link.Closed
import NodeClient.Proofs.RawSession.CutLine
import NodeClient.Proofs.RawSession.Prompt
import NodeClient.Proofs.Rpc.Slot
import NodeClient.Proofs.Shape
import NodeClient.Proofs.Shape.Chain
import NodeClient.Proofs.Chain.Selection
import NodeClient.Proofs.Chain.Spelling
import NodeClient.Proofs.Chain.Canonical
