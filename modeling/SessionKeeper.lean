import SessionKeeper.Text.Natural
import SessionKeeper.Program.Pool
import SessionKeeper.Store.File
import SessionKeeper.Store.Keychain
import SessionKeeper.Store.Outage
import SessionKeeper.Error
import SessionKeeper.Session
import SessionKeeper.Credentials
import SessionKeeper.ColorMode
import SessionKeeper.Form
import SessionKeeper.Environment
import SessionKeeper.EnvironmentFile.Basic
import SessionKeeper.Call
import SessionKeeper.Together
import SessionKeeper.Storage
import SessionKeeper.CommandLine.Run
import SessionKeeper.Main
import SessionKeeper.Proofs.Store.Document
import SessionKeeper.Proofs.Session
import SessionKeeper.Proofs.FileTree.Access
import SessionKeeper.Proofs.Store.File
import SessionKeeper.Proofs.Store.Backends
import SessionKeeper.Proofs.Program.Runs
import SessionKeeper.Proofs.Exposure
import SessionKeeper.Proofs.Api.Client
import SessionKeeper.Proofs.Manager.Outcomes
import SessionKeeper.Proofs.Manager.History
import SessionKeeper.Proofs.Manager.Restart
import SessionKeeper.Proofs.Program.Guard
import SessionKeeper.Proofs.Manager.Serializable
import SessionKeeper.Proofs.Manager.Expiry
import SessionKeeper.Proofs.Manager.Loading
import SessionKeeper.Proofs.Json.Skip
import SessionKeeper.Proofs.StoredToken
import SessionKeeper.Proofs.Api.Requests
import SessionKeeper.Proofs.Api.Bearer
import SessionKeeper.Proofs.Url.Join
import SessionKeeper.Proofs.Api.Confinement
import SessionKeeper.Proofs.Api.History
import SessionKeeper.Proofs.Api.Freshness
import SessionKeeper.Proofs.CommandLine.Account
import SessionKeeper.Proofs.CommandLine.Commands
import SessionKeeper.Proofs.CommandLine.Visits
import SessionKeeper.Proofs.FileTree.Directories
import SessionKeeper.Proofs.Store.Crash
import SessionKeeper.Proofs.Noninterference.Secrets
import SessionKeeper.Proofs.Program.Apart
import SessionKeeper.Proofs.Store.Separate
import SessionKeeper.Proofs.Store.Services
import SessionKeeper.Proofs.Store.Turns
import SessionKeeper.Proofs.Manager.Separation
import SessionKeeper.Proofs.Preference.Accesses
import SessionKeeper.Proofs.Preference.Mode
import SessionKeeper.Proofs.Preference.Toggles
import SessionKeeper.Proofs.Api.Attempts
import SessionKeeper.Proofs.CommandLine.Forms
import SessionKeeper.Proofs.Manager.Admission
import SessionKeeper.Proofs.Store.Footprint
import SessionKeeper.Proofs.Manager.Bootstrap
import SessionKeeper.Proofs.CommandLine.Veiled
import SessionKeeper.Proofs.Api.Inquiries
import SessionKeeper.Proofs.Preference.Failures
import SessionKeeper.Proofs.Manager.Registration
import SessionKeeper.Proofs.Email
import SessionKeeper.Proofs.Api.Messages
import SessionKeeper.Proofs.Api.Shortening
import SessionKeeper.Proofs.Api.Submissions
import SessionKeeper.Proofs.Url.Loopback
import SessionKeeper.Proofs.CommandLine.Logout
import SessionKeeper.Proofs.Form
import SessionKeeper.Proofs.Settings.Overrides
import SessionKeeper.Proofs.Settings.Saved
import SessionKeeper.Proofs.Store.Canonical
