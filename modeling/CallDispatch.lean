import CallDispatch.Dispatcher
import CallDispatch.Proofs.CallSite
import CallDispatch.Proofs.Caller.Awareness
import CallDispatch.Proofs.Caller.Effects
import CallDispatch.Proofs.Caller.Publication
import CallDispatch.Proofs.Caller.Snapshot.Canonical
import CallDispatch.Proofs.Caller.Spelling
import CallDispatch.Proofs.Collections.History
import CallDispatch.Proofs.Config.Environment
import CallDispatch.Proofs.Config.Reading
import CallDispatch.Proofs.Journal
