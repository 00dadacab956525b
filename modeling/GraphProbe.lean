import GraphProbe.Exercise.Run
import GraphProbe.Proofs.Attempt
import GraphProbe.Proofs.Sessions
import GraphProbe.Proofs.Answers
import GraphProbe.Proofs.AwaitOutcome
import GraphProbe.Proofs.Unblocked
import GraphProbe.Proofs.Isolation
import GraphProbe.Proofs.Frames
import GraphProbe.Proofs.Own
import GraphProbe.Proofs.Polling
import GraphProbe.Proofs.Reset
import GraphProbe.Proofs.PathRender
import GraphProbe.Proofs.Lookup
import GraphProbe.Proofs.ErrorAssertion
import GraphProbe.Proofs.LogRecords
import GraphProbe.Proofs.OperationIds
import GraphProbe.Proofs.ReaderTask
import GraphProbe.Proofs.Resolution
import GraphProbe.Proofs.CloseNotice
