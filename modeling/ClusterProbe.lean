import ClusterProbe.Blueprint
import ClusterProbe.Check.Await
import ClusterProbe.Check.Provision
import ClusterProbe.Check.Reach
import ClusterProbe.Check.Retire
import ClusterProbe.Check.Workload
import ClusterProbe.Client
import ClusterProbe.Json.Printer
import ClusterProbe.Json.Reader
import ClusterProbe.Settings
import ClusterProbe.Proofs.Answers
import ClusterProbe.Proofs.Collisions
import ClusterProbe.Proofs.ConditionEdits
import ClusterProbe.Proofs.Deadlines
import ClusterProbe.Proofs.KnownNames
import ClusterProbe.Proofs.LastingConditions
import ClusterProbe.Proofs.Parents
import ClusterProbe.Proofs.PodChecks
import ClusterProbe.Proofs.Reaching
import ClusterProbe.Proofs.RepeatedCreation
import ClusterProbe.Proofs.Restraint
import ClusterProbe.Proofs.WireForm
import ClusterProbe.Proofs.Questions
