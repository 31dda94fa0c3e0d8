import DriveDepot.Authorization
import DriveDepot.Category
import DriveDepot.Command
import DriveDepot.Command.Run
import DriveDepot.Disk
import DriveDepot.Disk.Scratch
import DriveDepot.Double
import DriveDepot.Double.Shortest
import DriveDepot.Double.Text
import DriveDepot.Drive
import DriveDepot.Drive.Call
import DriveDepot.Drive.Schedule
import DriveDepot.Failure
import DriveDepot.FolderPath
import DriveDepot.Folders
import DriveDepot.FoundFile
import DriveDepot.Issue
import DriveDepot.Json
import DriveDepot.Json.Access
import DriveDepot.Json.Reader
import DriveDepot.Json.Wording
import DriveDepot.Json.Writer
import DriveDepot.Layout
import DriveDepot.Layout.File
import DriveDepot.LocalPath
import DriveDepot.NamePattern
import DriveDepot.Operation
import DriveDepot.Proofs.Along
import DriveDepot.Proofs.Along.Listings
import DriveDepot.Proofs.Browsing
import DriveDepot.Proofs.Browsing.Uniqueness
import DriveDepot.Proofs.Calls
import DriveDepot.Proofs.Causes
import DriveDepot.Proofs.Causes.Client
import DriveDepot.Proofs.Changes
import DriveDepot.Proofs.Creation
import DriveDepot.Proofs.Delete
import DriveDepot.Proofs.Delete.InOrder
import DriveDepot.Proofs.Delete.Interrupted
import DriveDepot.Proofs.Disk
import DriveDepot.Proofs.Disk.Refusals
import DriveDepot.Proofs.Disk.Tree
import DriveDepot.Proofs.Download
import DriveDepot.Proofs.Download.AllOrNothing
import DriveDepot.Proofs.Ending
import DriveDepot.Proofs.Ends
import DriveDepot.Proofs.FailsWith
import DriveDepot.Proofs.Folder
import DriveDepot.Proofs.FolderPath
import DriveDepot.Proofs.FolderPath.Titles
import DriveDepot.Proofs.Growth
import DriveDepot.Proofs.Guarded
import DriveDepot.Proofs.Json
import DriveDepot.Proofs.LayoutFile
import DriveDepot.Proofs.Lifecycle
import DriveDepot.Proofs.Listing
import DriveDepot.Proofs.Listing.Names
import DriveDepot.Proofs.Move
import DriveDepot.Proofs.Move.Interrupted
import DriveDepot.Proofs.Move.Success
import DriveDepot.Proofs.Move.Survival
import DriveDepot.Proofs.NamePattern
import DriveDepot.Proofs.NamePattern.Unambiguous
import DriveDepot.Proofs.NoRawFailure
import DriveDepot.Proofs.Overlooking
import DriveDepot.Proofs.Overlooking.Client
import DriveDepot.Proofs.Preparation
import DriveDepot.Proofs.Preparation.Agreement
import DriveDepot.Proofs.Preparation.Building
import DriveDepot.Proofs.Preparation.Existence
import DriveDepot.Proofs.Preparation.Furnishing
import DriveDepot.Proofs.Preparation.OneRoot
import DriveDepot.Proofs.Preparation.RootFolder
import DriveDepot.Proofs.Probe
import DriveDepot.Proofs.Probe.Harmless
import DriveDepot.Proofs.Program
import DriveDepot.Proofs.Provider
import DriveDepot.Proofs.Provision
import DriveDepot.Proofs.Query
import DriveDepot.Proofs.Reach
import DriveDepot.Proofs.Reach.Folders
import DriveDepot.Proofs.Reports
import DriveDepot.Proofs.Runs
import DriveDepot.Proofs.Savable
import DriveDepot.Proofs.Search
import DriveDepot.Proofs.Search.OneFile
import DriveDepot.Proofs.Search.Paging
import DriveDepot.Proofs.Search.Requests
import DriveDepot.Proofs.Settings
import DriveDepot.Proofs.Settings.Token
import DriveDepot.Proofs.Settings.VariableFile
import DriveDepot.Proofs.Steady
import DriveDepot.Proofs.Store
import DriveDepot.Proofs.Store.Delete
import DriveDepot.Proofs.Store.Download
import DriveDepot.Proofs.Store.Listing
import DriveDepot.Proofs.Store.Move
import DriveDepot.Proofs.Store.Run
import DriveDepot.Proofs.Store.Upload
import DriveDepot.Proofs.Terminates
import DriveDepot.Proofs.Text
import DriveDepot.Proofs.Tidy
import DriveDepot.Proofs.Trail
import DriveDepot.Proofs.Twins
import DriveDepot.Proofs.Twins.Client
import DriveDepot.Proofs.Unprovisioned
import DriveDepot.Proofs.Upload
import DriveDepot.Proofs.Upload.Interrupted
import DriveDepot.Proofs.Upload.Invisible
import DriveDepot.Proofs.Upload.RoundTrip
import DriveDepot.Query
import DriveDepot.RemoteFile
import DriveDepot.Repository
import DriveDepot.Repository.Preparation
import DriveDepot.Repository.Probe
import DriveDepot.Repository.Transfer
import DriveDepot.Search
import DriveDepot.Session
import DriveDepot.Settings
import DriveDepot.Settings.Environment
import DriveDepot.Text
import DriveDepot.Text.Abridged
import DriveDepot.Text.Quoted
import DriveDepot.Text.Uppercase
import DriveDepot.Text.Utf8
import DriveDepot.Main
