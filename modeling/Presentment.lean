import Presentment.Bytes
import Presentment.Cbor.Decoder
import Presentment.Cbor.Float
import Presentment.Cbor.Head
import Presentment.Cbor.Reader
import Presentment.Cbor.Value
import Presentment.Cbor.Writer
import Presentment.Certificate.Basic
import Presentment.Certificate.Name
import Presentment.Certificate.Pem
import Presentment.CommandLine.Invocation
import Presentment.CommandLine.Manual
import Presentment.CommandLine.Run
import Presentment.Cose.Header
import Presentment.Cose.Key
import Presentment.Cose.Message
import Presentment.Cose.Registry
import Presentment.Crypto.Aes
import Presentment.Crypto.Curve
import Presentment.Crypto.Ecdsa
import Presentment.Crypto.Gcm
import Presentment.Crypto.Hkdf
import Presentment.Crypto.PrivateKey
import Presentment.Crypto.Sha256
import Presentment.Crypto.Suite
import Presentment.Der.Element
import Presentment.Der.ObjectIdentifier
import Presentment.Der.Registry
import Presentment.Der.Registry.Algorithm
import Presentment.Der.Registry.Branch
import Presentment.Der.Registry.Directory
import Presentment.Der.Registry.Infrastructure
import Presentment.Der.Registry.Service
import Presentment.Der.Time
import Presentment.Disclosure.Age
import Presentment.Disclosure.Filter
import Presentment.Disclosure.Form
import Presentment.Disclosure.Item
import Presentment.Disclosure.Response
import Presentment.Embedded
import Presentment.Fragment
import Presentment.Holder.Engagement
import Presentment.Json.Basic
import Presentment.Json.Decoder
import Presentment.Json.Number
import Presentment.Json.Printer
import Presentment.Json.Reader
import Presentment.Main
import Presentment.Message.DeviceSigned
import Presentment.Message.Engagement
import Presentment.Message.IssuerSigned
import Presentment.Message.Request
import Presentment.Message.RequestForm
import Presentment.Message.Response
import Presentment.Message.Session
import Presentment.Message.Transcript
import Presentment.NonEmpty
import Presentment.Proofs.Cbor.Decoder
import Presentment.Proofs.Cbor.Head
import Presentment.Proofs.Cbor.Naturality
import Presentment.Proofs.Cbor.Nesting
import Presentment.Proofs.Cbor.Recovery
import Presentment.Proofs.Cbor.Taken
import Presentment.Proofs.Cbor.Value
import Presentment.Proofs.Cose.Message
import Presentment.Proofs.Cose.Nesting
import Presentment.Proofs.Crypto.Suite
import Presentment.Proofs.Disclosure.Age
import Presentment.Proofs.Disclosure.Fidelity
import Presentment.Proofs.Disclosure.Merge
import Presentment.Proofs.Disclosure.Narrowing
import Presentment.Proofs.Disclosure.Nearest
import Presentment.Proofs.Disclosure.Outcome
import Presentment.Proofs.Disclosure.Privacy
import Presentment.Proofs.Disclosure.Relation
import Presentment.Proofs.Disclosure.Response
import Presentment.Proofs.Disclosure.Returned
import Presentment.Proofs.Disclosure.Selection
import Presentment.Proofs.Disclosure.Signing
import Presentment.Proofs.Disclosure.Union
import Presentment.Proofs.Embedded
import Presentment.Proofs.Except
import Presentment.Proofs.Fragment
import Presentment.Proofs.Framing
import Presentment.Proofs.Message.Engagement
import Presentment.Proofs.Message.EngagementCodec
import Presentment.Proofs.Message.IssuerSigned
import Presentment.Proofs.Message.Payload
import Presentment.Proofs.Message.Recoding
import Presentment.Proofs.Message.Recovery
import Presentment.Proofs.Message.Request
import Presentment.Proofs.Message.Response
import Presentment.Proofs.Message.Session
import Presentment.Proofs.Security.Replay
import Presentment.Proofs.Security.SessionKey
import Presentment.Proofs.Security.Trust
import Presentment.Proofs.TextMap
import Presentment.Proofs.Transfer.Apply
import Presentment.Proofs.Transfer.Calls
import Presentment.Proofs.Transfer.Commands
import Presentment.Proofs.Transfer.Completion
import Presentment.Proofs.Transfer.Connection
import Presentment.Proofs.Transfer.Consent
import Presentment.Proofs.Transfer.Diagnosis
import Presentment.Proofs.Transfer.Exchange
import Presentment.Proofs.Transfer.History
import Presentment.Proofs.Transfer.Idleness
import Presentment.Proofs.Transfer.Judgement
import Presentment.Proofs.Transfer.Keys
import Presentment.Proofs.Transfer.Lifecycle
import Presentment.Proofs.Transfer.Limit
import Presentment.Proofs.Transfer.Period
import Presentment.Proofs.Transfer.Reassembly
import Presentment.Proofs.Transfer.Recovery
import Presentment.Proofs.Transfer.Reply
import Presentment.Proofs.Transfer.Resources
import Presentment.Proofs.Transfer.Rounds
import Presentment.Proofs.Transfer.Runs
import Presentment.Proofs.Transfer.Step
import Presentment.Proofs.Transfer.Termination
import Presentment.Proofs.Transfer.Writes
import Presentment.Proofs.Verifier.Agreement
import Presentment.Proofs.Verifier.Delivery
import Presentment.Proofs.Verifier.Handshake
import Presentment.Proofs.Verifier.Possession
import Presentment.Proofs.Verifier.Presentation
import Presentment.Proofs.Verifier.Request
import Presentment.Proofs.Verifier.Response
import Presentment.Proofs.Verifier.Signature
import Presentment.Refusal
import Presentment.Security.Iso
import Presentment.Security.Plain
import Presentment.Security.Provider
import Presentment.Security.SessionKey
import Presentment.Security.Trust
import Presentment.Text.Base64
import Presentment.Text.Blank
import Presentment.Text.Hex
import Presentment.Text.Uuid
import Presentment.TextMap
import Presentment.Transfer.Actor
import Presentment.Transfer.Channel
import Presentment.Transfer.Error
import Presentment.Transfer.Exchange
import Presentment.Transfer.Host
import Presentment.Transfer.Prompt
import Presentment.Transfer.Radio
import Presentment.Transfer.Run
import Presentment.Transfer.Session
import Presentment.Transfer.Status
import Presentment.Transfer.Transition
import Presentment.Transfer.Tunnel
import Presentment.Verifier.ReaderSession
import Presentment.Wallet.Config
import Presentment.Wallet.Credential
import Presentment.Wallet.TransferInfo
