import Forwarding.Files.Tree
import Forwarding.Main
import Forwarding.Proofs.CommandLine.LineSources
import Forwarding.Proofs.CommandLine.Machine
import Forwarding.Proofs.Header.Lines
import Forwarding.Proofs.Header.Repeated
import Forwarding.Proofs.Header.WireName
import Forwarding.Proofs.HeaderValue.Hops
import Forwarding.Proofs.HeaderValue.Malformed
import Forwarding.Proofs.Range.Interval
import Forwarding.Proofs.Report.Agreement
import Forwarding.Proofs.Resolver.Nominated
import Forwarding.Proofs.Resolver.Provenance
import Forwarding.Proofs.Resolver.Session
import Forwarding.Proofs.Resolver.Tag
