import Isolation.Main
import Isolation.Zip.Writer
import Isolation.Proofs.Text.Utf8
import Isolation.Proofs.Text.Separated
import Isolation.Proofs.Path.Steps
import Isolation.Proofs.FileTree.Follow
import Isolation.Proofs.FileTree.Write
import Isolation.Proofs.Url.Percent
import Isolation.Proofs.Url.FilePath
import Isolation.Proofs.Url.FileText
import Isolation.Proofs.Url.EntryText
import Isolation.Proofs.Url.Spelling
import Isolation.Proofs.Locator.Returned
import Isolation.Proofs.Locator.Entry
import Isolation.Proofs.Classpath.EntryName
import Isolation.Proofs.Classpath.Opened
import Isolation.Proofs.Classpath.ReadLocator
import Isolation.Proofs.Classpath.Listed
import Isolation.Proofs.Service.Marked
import Isolation.Proofs.Service.Publish
import Isolation.Proofs.Loader.Resolution
import Isolation.Proofs.Loader.Change
import Isolation.Proofs.Loader.Graph
import Isolation.Proofs.Loader.Run
import Isolation.Proofs.Loader.Source
import Isolation.Proofs.Loader.FirstMatch
import Isolation.Proofs.Loader.DefineOnce
import Isolation.Proofs.Loader.ClassIsolation
import Isolation.Proofs.Assembly.ReadBack
import Isolation.Proofs.Loader.Resources
import Isolation.Proofs.Loader.FirstResource
import Isolation.Proofs.Exports.Spelling
import Isolation.Proofs.Loader.ResourceIsolation
import Isolation.Proofs.Assembly.Confinement
import Isolation.Proofs.Loader.Journal
import Isolation.Proofs.Loader.Shutdown
import Isolation.Proofs.Assembly.Failure
import Isolation.Proofs.Loader.Stack
import Isolation.Proofs.FileTree.Extends
import Isolation.Proofs.FileTree.Made
import Isolation.Proofs.Service.Located
import Isolation.Proofs.Service.Confined
import Isolation.Proofs.Assembly.Services
import Isolation.Proofs.Loader.Registered
import Isolation.Proofs.Loader.Mirror
import Isolation.Proofs.Loader.MirrorRun
import Isolation.Proofs.Loader.Tabulated
import Isolation.Proofs.Json.Written
import Isolation.Proofs.Manifest.Written
import Isolation.Proofs.Assembly.Listing
import Isolation.Proofs.SearchRules.Nearest
import Isolation.Proofs.Loader.Decisions
import Isolation.Proofs.Path.Lexical
import Isolation.Proofs.FileTree.Below
import Isolation.Proofs.CommandLine.Log
import Isolation.Proofs.CommandLine.ServiceDirectory
import Isolation.Proofs.Text.Utf8Order
import Isolation.Proofs.Classpath.Agreement
import Isolation.Proofs.Exports.ClassFile
import Isolation.Proofs.Exports.Union
import Isolation.Proofs.FileTree.Holder
import Isolation.Proofs.Json.Draft
import Isolation.Proofs.Manifest.Loaded
