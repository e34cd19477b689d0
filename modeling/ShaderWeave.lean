import ShaderWeave.Chunk.Fragments
import ShaderWeave.Settings.Json
import ShaderWeave.Single.Text
import ShaderWeave.Workspace
import ShaderWeave.Proofs.Graph.Flattening
import ShaderWeave.Proofs.Graph.Edits
import ShaderWeave.Proofs.Graph.WellFormed
import ShaderWeave.Proofs.Collection.Sound
import ShaderWeave.Proofs.Collection.Edits
import ShaderWeave.Proofs.Collection.Upkeep
import ShaderWeave.Proofs.Graph.Bare
import ShaderWeave.Proofs.Collection.Refresh
import ShaderWeave.Proofs.Collection.Runs
import ShaderWeave.Proofs.Collection.Persistence
import ShaderWeave.Proofs.Graph.Chunks
import ShaderWeave.Proofs.Lighting.Slots
import ShaderWeave.Proofs.Lighting.Creation
import ShaderWeave.Proofs.Lighting.Updates
import ShaderWeave.Proofs.Lighting.Runs
import ShaderWeave.Proofs.Lighting.Hashes
import ShaderWeave.Proofs.Lighting.Keys
import ShaderWeave.Proofs.Lighting.Upkeep
import ShaderWeave.Proofs.Program.Cache
import ShaderWeave.Proofs.Program.Sessions
import ShaderWeave.Proofs.Stencil.Texts
import ShaderWeave.Proofs.Lighting.Generation
import ShaderWeave.Proofs.Lighting.Persistence
import ShaderWeave.Proofs.Lighting.Roots
import ShaderWeave.Proofs.Lighting.Forms
import ShaderWeave.Proofs.Program.Crowds
import ShaderWeave.Proofs.Program.Determined
import ShaderWeave.Proofs.Code.Bindings
import ShaderWeave.Proofs.Code.Reading
import ShaderWeave.Proofs.Lighting.Declarations
import ShaderWeave.Proofs.Stencil.Spelling
import ShaderWeave.Proofs.Code.Resources
import ShaderWeave.Proofs.Lighting.Merging
import ShaderWeave.Proofs.Lighting.Contributions
import ShaderWeave.Proofs.Program.Bindings
import ShaderWeave.Proofs.Lighting.Agreement
import ShaderWeave.Proofs.Program.Neighbours
import ShaderWeave.Proofs.Lighting.Accounts
import ShaderWeave.Proofs.Lighting.Names
import ShaderWeave.Proofs.Program.Shadows
import ShaderWeave.Proofs.Template.Markers
import ShaderWeave.Proofs.Template.Surface
import ShaderWeave.Proofs.Lighting.Uploads
import ShaderWeave.Proofs.Lighting.Freshness
import ShaderWeave.Proofs.Program.Uploads
import ShaderWeave.Proofs.Template.Substitution
import ShaderWeave.Proofs.Lighting.Subscriptions
import ShaderWeave.Proofs.Program.Custody
import ShaderWeave.Proofs.Program.Values
import ShaderWeave.Proofs.Collection.Pending
import ShaderWeave.Proofs.Program.Turnover
import ShaderWeave.Proofs.Program.Isolation
import ShaderWeave.Proofs.Uniform.Delivery
import ShaderWeave.Proofs.Graph.Walks
import ShaderWeave.Proofs.Collection.Listing
import ShaderWeave.Proofs.Collection.Refusals
import ShaderWeave.Proofs.Lighting.Rosters
import ShaderWeave.Proofs.Chunk.Digests
import ShaderWeave.Proofs.Hash.Tokens
import ShaderWeave.Proofs.Program.Keys
import ShaderWeave.Proofs.Program.Requests
import ShaderWeave.Proofs.Template.Indentation
import ShaderWeave.Proofs.Lighting.Failures
import ShaderWeave.Proofs.Template.Lines
import ShaderWeave.Proofs.Chunk.Reports
import ShaderWeave.Proofs.Lighting.Grants
import ShaderWeave.Proofs.Collection.Removal
import ShaderWeave.Proofs.Template.Interleaving
import ShaderWeave.Proofs.Collection.Proxies
import ShaderWeave.Proofs.Program.Retries
import ShaderWeave.Proofs.Lighting.Packing
import ShaderWeave.Proofs.Graph.Searches
import ShaderWeave.Proofs.Lighting.Rows
import ShaderWeave.Proofs.Uniform.Names
