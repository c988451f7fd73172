import ChatClient.Http.Answer
import ChatClient.Main
import ChatClient.Proofs.CommandLine.Grammar
import ChatClient.Proofs.Continuation.Operations
import ChatClient.Proofs.Continuation.Polling
import ChatClient.Proofs.Envelope.Changes
import ChatClient.Proofs.EventStream.Failure
import ChatClient.Proofs.EventStream.Joining
import ChatClient.Proofs.Http.Addresses
import ChatClient.Proofs.Http.Payload
import ChatClient.Proofs.Http.Refusals
import ChatClient.Proofs.Http.Unframed
import ChatClient.Proofs.Session.Dispatch
import ChatClient.Proofs.Settings.Codes
import ChatClient.Proofs.Settings.Layers
import ChatClient.Proofs.Settings.Secrets
