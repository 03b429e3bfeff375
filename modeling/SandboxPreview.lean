import SandboxPreview.Http.Service
import SandboxPreview.Main
import SandboxPreview.Session.Lease
import SandboxPreview.Tools.Server
import SandboxPreview.Proofs.Text.Matching
import SandboxPreview.Proofs.Text.Trim
import SandboxPreview.Proofs.Reply.Block
import SandboxPreview.Proofs.Reply.Scan
import SandboxPreview.Proofs.Reply.Unfence
import SandboxPreview.Proofs.Reply.FencedName
import SandboxPreview.Proofs.Reply.FencedScan
import SandboxPreview.Proofs.Reply.Labelled
import SandboxPreview.Proofs.Reply.RoundTrip
import SandboxPreview.Proofs.Keyed
import SandboxPreview.Proofs.Session.Step
import SandboxPreview.Proofs.Session.Issued
import SandboxPreview.Proofs.Session.Run
import SandboxPreview.Proofs.Session.Lifetime
import SandboxPreview.Proofs.Store
import SandboxPreview.Proofs.Session.PreviewCache
import SandboxPreview.Proofs.Console.Receiving
import SandboxPreview.Proofs.Store.History
import SandboxPreview.Proofs.Simulator.Literal
import SandboxPreview.Proofs.Simulator.PrintCalls
import SandboxPreview.Proofs.Simulator.MainBody
import SandboxPreview.Proofs.Simulator.Meaning
import SandboxPreview.Proofs.Simulator.PrintedText
import SandboxPreview.Proofs.Json.Quote
import SandboxPreview.Proofs.Page.Injection
import SandboxPreview.Proofs.Page.Bridge
import SandboxPreview.Proofs.Page.Substitution
import SandboxPreview.Proofs.Page.Assembly
import SandboxPreview.Proofs.Page.Styles
import SandboxPreview.Proofs.Template.Token
import SandboxPreview.Proofs.Text.Reading
import SandboxPreview.Proofs.Template.Blocks
import SandboxPreview.Proofs.Template.Outputs
import SandboxPreview.Proofs.Template.Rendering
import SandboxPreview.Proofs.Template.Pieces
import SandboxPreview.Proofs.Template.Remains
import SandboxPreview.Proofs.Session.HeldStores
import SandboxPreview.Proofs.Session.Purging
import SandboxPreview.Proofs.Reply.Rereading
import SandboxPreview.Proofs.Page.ScriptEnd
import SandboxPreview.Proofs.Session.Loading
import SandboxPreview.Proofs.Session.Staying
import SandboxPreview.Proofs.Http.Requests
import SandboxPreview.Proofs.Tools.Calls
import SandboxPreview.Proofs.Http.Answers
import SandboxPreview.Proofs.Linking.Imports
import SandboxPreview.Proofs.Linking.Arrangement
import SandboxPreview.Proofs.Linking.Mounting
import SandboxPreview.Proofs.Linking.Classes
import SandboxPreview.Proofs.Linking.Exports
import SandboxPreview.Proofs.Agreement
import SandboxPreview.Proofs.Tools.Sessions
import SandboxPreview.Proofs.Tools.Failures
import SandboxPreview.Proofs.Http.Admission
import SandboxPreview.Proofs.Reply.Regions
import SandboxPreview.Proofs.Classification
import SandboxPreview.Proofs.Simulator.Registration
