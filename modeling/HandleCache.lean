import HandleCache.Catalog
import HandleCache.Registry.Threads
import HandleCache.Script.Counting
import HandleCache.Script.Jni
import HandleCache.Script.Plain
import HandleCache.Binding.Progress
import HandleCache.Proofs.Threads.Move
import HandleCache.Proofs.Threads.Invariant
import HandleCache.Proofs.Threads.Start
import HandleCache.Proofs.Threads.Lifecycle
import HandleCache.Proofs.Threads.History
import HandleCache.Proofs.Threads.Answers
import HandleCache.Proofs.Threads.ResolveOnce
import HandleCache.Proofs.Threads.Identity
import HandleCache.Proofs.Counting.Tally
import HandleCache.Proofs.Threads.Termination
import HandleCache.Proofs.Counting.Economy
import HandleCache.Proofs.Counting.FirstUse
import HandleCache.Binding.Ask
import HandleCache.Proofs.Descriptor.Grammar
import HandleCache.Proofs.Requests.Trail
import HandleCache.Proofs.Requests.Custody
import HandleCache.Proofs.Requests.License
import HandleCache.Proofs.Requests.Table
import HandleCache.Proofs.Requests.Discipline
import HandleCache.Jni.Happening
import HandleCache.Proofs.Jni.References
import HandleCache.Proofs.Jni.Identity
import HandleCache.Proofs.Descriptor.Refusal
import HandleCache.Proofs.Descriptor.RoundTrip
import HandleCache.Proofs.Requests.Defect
import HandleCache.Proofs.Requests.Course
import HandleCache.Outcome
import HandleCache.Binding.Uncached
import HandleCache.Proofs.Requests.Agreement
import HandleCache.Proofs.Counting.Happening
import HandleCache.Proofs.Counting.Retention
import HandleCache.Proofs.Counting.Lookups
import HandleCache.Proofs.Ownership.Deal
import HandleCache.Proofs.Ownership.Store
import HandleCache.Proofs.Ownership.Workspace
import HandleCache.Proofs.Ownership.Balance
import HandleCache.Proofs.Jni.Pending
import HandleCache.Proofs.Jni.Nulls
import HandleCache.Proofs.Requests.Ladder
import HandleCache.Proofs.Counting.Preload
import HandleCache.Proofs.Registry.Failure
import HandleCache.Proofs.Requests.Resolved
import HandleCache.Proofs.World.Growth
import HandleCache.Proofs.Jni.Constructors
import HandleCache.Proofs.Counting.Trusted
import HandleCache.Proofs.Jni.Valid
import HandleCache.Proofs.Registry.Declared
import HandleCache.Proofs.Counting.Promises
import HandleCache.Proofs.Jni.Outstanding
import HandleCache.Proofs.Jni.Beside
import HandleCache.Proofs.Jni.Thrown
import HandleCache.Proofs.Ownership.Holders
