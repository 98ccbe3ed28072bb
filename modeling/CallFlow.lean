import CallFlow.Http
import CallFlow.Proofs.Agreement
import CallFlow.Proofs.Body.Lossless
import CallFlow.Proofs.Body.Reload
import CallFlow.Proofs.Body.RepeatedIds
import CallFlow.Proofs.Canvas.Order
import CallFlow.Proofs.Edit.Exact
import CallFlow.Proofs.Json.Canonical
import CallFlow.Proofs.Kind.Indexes
import CallFlow.Proofs.Script.Preserved
import CallFlow.Proofs.Script.Tour
import CallFlow.Proofs.Service.Confined
import CallFlow.Proofs.Service.Current
import CallFlow.Proofs.Service.Status
import CallFlow.Proofs.Validation.Exact
