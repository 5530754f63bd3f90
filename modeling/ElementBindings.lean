import ElementBindings.Bundle.Build
import ElementBindings.Bundle.Context
import ElementBindings.Bundle.Resolve
import ElementBindings.CommandLine.Arguments
import ElementBindings.CommandLine.Program
import ElementBindings.CommandLine.Usage
import ElementBindings.Config.Basic
import ElementBindings.Config.Options
import ElementBindings.Config.ProjectFile
import ElementBindings.Config.Template
import ElementBindings.Element.Basic
import ElementBindings.Element.Data
import ElementBindings.Element.Discovery
import ElementBindings.Element.Dispatch
import ElementBindings.Element.Doc
import ElementBindings.Element.Options
import ElementBindings.Element.Slots
import ElementBindings.Element.Surface
import ElementBindings.Files.Access
import ElementBindings.Files.Tree
import ElementBindings.Glob.Basic
import ElementBindings.Glob.Reader
import ElementBindings.Glob.Source
import ElementBindings.Json.Basic
import ElementBindings.Json.Printer
import ElementBindings.Main
import ElementBindings.Path.Basic
import ElementBindings.Path.Normal
import ElementBindings.Path.Specifier
import ElementBindings.Proofs.Path.Components
import ElementBindings.Proofs.Path.Place
import ElementBindings.Script.Module
import ElementBindings.Script.Parse.Basic
import ElementBindings.Script.Parse.Classes
import ElementBindings.Script.Parse.Expressions
import ElementBindings.Script.Parse.Markup
import ElementBindings.Script.Parse.Patterns
import ElementBindings.Script.Parse.Statements
import ElementBindings.Script.Parse.Types
import ElementBindings.Script.Token
import ElementBindings.Script.Tree
import ElementBindings.Text.Basic
import ElementBindings.Text.Blank
import ElementBindings.Text.Case
import ElementBindings.Text.CaseTable
import ElementBindings.Text.Names
import ElementBindings.Text.Quoted
import ElementBindings.Text.Scan
import ElementBindings.Text.Visible
import ElementBindings.Text.Word
import ElementBindings.Toml.Basic
import ElementBindings.Toml.Reader
import ElementBindings.Toml.Scalar
import ElementBindings.Wrapper.Basic
import ElementBindings.Wrapper.Declarations
import ElementBindings.Wrapper.Imports
import ElementBindings.Wrapper.Module
import ElementBindings.Wrapper.Props
import ElementBindings.Proofs.Config.Accepted
import ElementBindings.Proofs.Except
import ElementBindings.Proofs.List
import ElementBindings.Proofs.Path.Specifier
import ElementBindings.Proofs.Wrapper.Derivation
import ElementBindings.Proofs.Wrapper.Specifiers
import ElementBindings.Proofs.Path.Extension
import ElementBindings.Proofs.Config.Declarations
import ElementBindings.Proofs.Bundle.Resolve
import ElementBindings.Proofs.Bundle.Output
import ElementBindings.Proofs.Bundle.Session
import ElementBindings.Proofs.Config.Resolution
import ElementBindings.Proofs.Wrapper.ClassNames
import ElementBindings.Proofs.Wrapper.ModuleNames
import ElementBindings.Proofs.Element.Discovery
import ElementBindings.Proofs.Config.Sources
import ElementBindings.Proofs.Bundle.Containment
import ElementBindings.Proofs.Files.Tree
import ElementBindings.Proofs.Files.Edits
import ElementBindings.Proofs.Files.Following
import ElementBindings.Proofs.Files.Access
import ElementBindings.Proofs.Files.Listing
import ElementBindings.Proofs.Glob.Scan
import ElementBindings.Proofs.Bundle.Rebuild
import ElementBindings.Proofs.CommandLine.Generate
import ElementBindings.Proofs.CommandLine.Rerun
import ElementBindings.Proofs.Path.Canonical
import ElementBindings.Proofs.Path.Reach
import ElementBindings.Proofs.Path.Opening
import ElementBindings.Proofs.Element.Classes
import ElementBindings.Proofs.Element.Properties
import ElementBindings.Proofs.Text.Case
import ElementBindings.Proofs.Wrapper.Handlers
import ElementBindings.Proofs.Wrapper.Planning
import ElementBindings.Proofs.Wrapper.PropNames
import ElementBindings.Proofs.Config.Placeholders
import ElementBindings.Proofs.Path.Order
import ElementBindings.Proofs.Files.Creation
import ElementBindings.Proofs.Glob.Order
import ElementBindings.Proofs.Text.Bytes
import ElementBindings.Proofs.Glob.Source
import ElementBindings.Proofs.Glob.Matching
import ElementBindings.Proofs.Glob.Negation
import ElementBindings.Proofs.Text.Names
import ElementBindings.Proofs.Wrapper.TagNames
import ElementBindings.Proofs.Config.Separation
import ElementBindings.Proofs.Text.Cutting
import ElementBindings.Proofs.Text.Scan
import ElementBindings.Proofs.Element.DocBlocks
import ElementBindings.Proofs.Element.DocTags
import ElementBindings.Proofs.Element.EventTypes
import ElementBindings.Proofs.Element.DocPrinting
import ElementBindings.Proofs.Element.DispatchSites
import ElementBindings.Proofs.Element.Sightings
import ElementBindings.Proofs.Element.Visibility
import ElementBindings.Proofs.Element.Accessors
import ElementBindings.Proofs.Element.Exports
import ElementBindings.Proofs.Element.SlotTags
import ElementBindings.Proofs.Wrapper.DocComments
import ElementBindings.Proofs.Element.Nesting
import ElementBindings.Proofs.Text.Quoted
import ElementBindings.Proofs.Element.Origins
import ElementBindings.Proofs.Text.Identifiers
import ElementBindings.Proofs.Script.Scanning
import ElementBindings.Proofs.Script.Patterns
import ElementBindings.Proofs.Wrapper.Destructuring
