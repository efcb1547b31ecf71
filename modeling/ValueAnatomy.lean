import ValueAnatomy.Text.CodePoints
import ValueAnatomy.Text.Unprintable
import ValueAnatomy.Text.Extending
import ValueAnatomy.Text.Uppercase
import ValueAnatomy.Text.Lowercase
import ValueAnatomy.Text.Hex
import ValueAnatomy.Text.Quoted
import ValueAnatomy.Binary64
import ValueAnatomy.Binary64.Shortest
import ValueAnatomy.Binary64.Printer
import ValueAnatomy.Binary64.Reader
import ValueAnatomy.Handle
import ValueAnatomy.Modifiers
import ValueAnatomy.TypeRef
import ValueAnatomy.Annotation
import ValueAnatomy.DeclKey
import ValueAnatomy.Member
import ValueAnatomy.TypeDecl
import ValueAnatomy.Settings
import ValueAnatomy.Problem
import ValueAnatomy.Report
import ValueAnatomy.FirstOfEach
import ValueAnatomy.Journal
import ValueAnatomy.Catalog
import ValueAnatomy.TypeSpec
import ValueAnatomy.Catalog.Draft
import ValueAnatomy.Catalog.Roots
import ValueAnatomy.Provider
import ValueAnatomy.Ancestry
import ValueAnatomy.Finisher
import ValueAnatomy.Route
import ValueAnatomy.Route.Policy
import ValueAnatomy.Route.Resolver
import ValueAnatomy.Property
import ValueAnatomy.Sources
import ValueAnatomy.Merge
import ValueAnatomy.Provider.Overlay
import ValueAnatomy.Session
import ValueAnatomy.Proofs.Ancestry.Walk
import ValueAnatomy.Proofs.Catalog.Grown
import ValueAnatomy.Proofs.Catalog.Answers
import ValueAnatomy.Proofs.Ancestry.Topological
import ValueAnatomy.Proofs.Ancestry.Depth
import ValueAnatomy.Proofs.Merge.Canonical
import ValueAnatomy.Proofs.Route.Rooted
import ValueAnatomy.Proofs.Session.Calls
import ValueAnatomy.Proofs.Session.PropertyRecall
import ValueAnatomy.Proofs.Route.Creators
import ValueAnatomy.Proofs.Finisher.Choice
import ValueAnatomy.Proofs.Route.Contract
import ValueAnatomy.Proofs.Route.Direct
import ValueAnatomy.Proofs.Sources.MostSpecific
import ValueAnatomy.Proofs.Merge.Uniqueness
import ValueAnatomy.Proofs.Merge.Annotations
import ValueAnatomy.Proofs.Merge.Reporting
import ValueAnatomy.Proofs.Session.RouteRecall
import ValueAnatomy.Proofs.Session.Independence
import ValueAnatomy.Proofs.Mirror.Alike
import ValueAnatomy.Proofs.Mirror.Routes
import ValueAnatomy.Proofs.Mirror.ByName
import ValueAnatomy.Proofs.Mirror.Properties
import ValueAnatomy.Proofs.Catalog.Built
import ValueAnatomy.Proofs.Catalog.Registration
import ValueAnatomy.Proofs.Session.DeclarationOrder
import ValueAnatomy.Proofs.Session.HiddenMembers
import ValueAnatomy.Proofs.Session.Interleaving
import ValueAnatomy.Proofs.Finisher.Exact
import ValueAnatomy.Proofs.Finisher.MemberOrder
import ValueAnatomy.Proofs.Sources.Bridges
import ValueAnatomy.Proofs.Sources.Setters
import ValueAnatomy.Proofs.Catalog.Insertion
import ValueAnatomy.Proofs.Catalog.Preorder
import ValueAnatomy.Proofs.Session.NewPolicy
import ValueAnatomy.Proofs.Route.SoleBuilder
import ValueAnatomy.Proofs.Catalog.Nesting
import ValueAnatomy.Proofs.Catalog.Minting
import ValueAnatomy.Proofs.Route.Failures
import ValueAnatomy.Proofs.Session.Failures
