import PodCheck.Json.Pointer
import PodCheck.Main
import PodCheck.Simulation.Schedule
import PodCheck.Proofs.Checker.Turn
import PodCheck.Proofs.Checker.Course
import PodCheck.Proofs.RunPod.Identity
import PodCheck.Proofs.RunPod.Template
import PodCheck.Proofs.RunPod.Deadline
import PodCheck.Proofs.Coordinator.Change
import PodCheck.Proofs.Coordinator.Underway
import PodCheck.Proofs.Coordinator.Lock
import PodCheck.Proofs.Coordinator.Course
import PodCheck.Proofs.Coordinator.Results
import PodCheck.Proofs.Coordinator.LockKey
import PodCheck.Proofs.Chronicle
import PodCheck.Proofs.Chronicle.CallOrder
import PodCheck.Proofs.Chronicle.Exclusion
import PodCheck.Proofs.Cluster.Change
import PodCheck.Proofs.Deployment
import PodCheck.Proofs.Deployment.Authorization
import PodCheck.Proofs.Deployment.Custody
import PodCheck.Proofs.Deployment.Whitelisting
import PodCheck.Proofs.Deployment.Course
import PodCheck.Proofs.Deployment.WholeRun
import PodCheck.Proofs.Deployment.Expiry
import PodCheck.Proofs.Coordinator.Line
import PodCheck.Proofs.Coordinator.Deadline
import PodCheck.Proofs.Deployment.Alone
import PodCheck.Proofs.Deployment.Independence
import PodCheck.Proofs.Api.Talk
import PodCheck.Proofs.Api.Sighting
import PodCheck.Proofs.Simulation.Flight
import PodCheck.Proofs.Simulation.SingleCall
import PodCheck.Proofs.Api.Run
import PodCheck.Proofs.Simulation.SingleRun
import PodCheck.Proofs.Api.MissingCheck
import PodCheck.Proofs.Cluster.History
import PodCheck.Proofs.Deployment.TokenAgreement
import PodCheck.Proofs.Digits
import PodCheck.Proofs.Json.Printing
import PodCheck.Proofs.Json.MergePatch
import PodCheck.Proofs.Timestamp
import PodCheck.Proofs.Form.Exact
import PodCheck.Proofs.Form.Objects
import PodCheck.Proofs.Api.StoredToken
import PodCheck.Proofs.Checker.Durations
import PodCheck.Proofs.Coordinator.Gate
import PodCheck.Proofs.Manifest
import PodCheck.Proofs.Whitelist
import PodCheck.Proofs.Manifest.Json
