import ShaderWeave.Stencil.Parts

/-! # Light code

For each type of light one stencil that declares the buffers of all lights of the type, and one for what a
single light contributes.
-/

namespace ShaderWeave.Stencil

/-- Buffers of `count` directional lights, from binding `binding` on. -/
def directionalDeclarations : List Item := [
  resource (value "binding") ["var<storage, read> uLDirDirections: array<f32, ", times "count" 3, ">;"],
  resource (plus "binding" 1) ["var<storage, read> uLDirColors: array<f32, ", times "count" 4, ">;"]] ++ plain [
  "",
  "fn dir_light_direction(i: u32) -> vec3<f32> \x7b",
  "    return vec3<f32>(uLDirDirections[i * 3u], uLDirDirections[i * 3u + 1u], uLDirDirections[i * 3u + 2u]);",
  "\x7d",
  "",
  "fn dir_light_color(i: u32) -> vec4<f32> \x7b",
  "    return vec4<f32>(uLDirColors[i * 4u], uLDirColors[i * 4u + 1u], uLDirColors[i * 4u + 2u], uLDirColors[i * 4u + 3u]);",
  "\x7d",
  ""]

/-- Contribution of directional light `index`, shadowed by slot `shadow_index` if that is not negative. -/
def directionalLight : List Item := [
  .line ["    \x7b"],
  .line ["        let light_color = dir_light_color(", value "index", "u);"],
  .line ["        let l = -dir_light_direction(", value "index", "u);"],
  .branch (.atLeast "shadow_index" 0)
    [.line ["        let shadow = shadow_", value "shadow_index", "(surface.position);"]]
    [.line ["        let shadow = 1.0;"]]] ++ plain [
  "        direct += light_contribution(surface, l, light_color.rgb) * shadow;",
  "        ibl_shadow = min(ibl_shadow, mix(1.0, shadow, light_color.a));",
  "    \x7d"]

/-- Buffers of `count` spot lights, from binding `binding` on. -/
def spotDeclarations : List Item := [
  resource (value "binding") ["var<storage, read> uLSpotDirections: array<f32, ", times "count" 3, ">;"],
  resource (plus "binding" 1) ["var<storage, read> uLSpotColors: array<f32, ", times "count" 4, ">;"],
  resource (plus "binding" 2) ["var<storage, read> uLSpotPositions: array<f32, ", times "count" 3, ">;"],
  resource (plus "binding" 3) ["var<storage, read> uLSpotSpot: array<f32, ", times "count" 2, ">;"],
  resource (plus "binding" 4) ["var<storage, read> uLSpotFalloff: array<f32, ", times "count" 3, ">;"]] ++ plain [
  "",
  "fn spot_light_direction(i: u32) -> vec3<f32> \x7b",
  "    return vec3<f32>(uLSpotDirections[i * 3u], uLSpotDirections[i * 3u + 1u], uLSpotDirections[i * 3u + 2u]);",
  "\x7d",
  "",
  "fn spot_light_color(i: u32) -> vec4<f32> \x7b",
  "    return vec4<f32>(uLSpotColors[i * 4u], uLSpotColors[i * 4u + 1u], uLSpotColors[i * 4u + 2u], uLSpotColors[i * 4u + 3u]);",
  "\x7d",
  "",
  "fn spot_light_position(i: u32) -> vec3<f32> \x7b",
  "    return vec3<f32>(uLSpotPositions[i * 3u], uLSpotPositions[i * 3u + 1u], uLSpotPositions[i * 3u + 2u]);",
  "\x7d",
  "",
  "fn spot_light_cone(i: u32) -> vec2<f32> \x7b",
  "    return vec2<f32>(uLSpotSpot[i * 2u], uLSpotSpot[i * 2u + 1u]);",
  "\x7d",
  "",
  "fn spot_light_falloff(i: u32) -> vec3<f32> \x7b",
  "    return vec3<f32>(uLSpotFalloff[i * 3u], uLSpotFalloff[i * 3u + 1u], uLSpotFalloff[i * 3u + 2u]);",
  "\x7d",
  ""]

/-- Contribution of spot light `index`, shadowed by slot `shadow_index` if that is not negative. -/
def spotLight : List Item := [
  .line ["    \x7b"],
  .line ["        let light_color = spot_light_color(", value "index", "u);"],
  .line ["        let to_light = spot_light_position(", value "index", "u) - surface.position;"],
  .line ["        let dist = length(to_light);"],
  .line ["        let l = to_light / max(dist, 0.0001);"],
  .line ["        let cone = spot_light_cone(", value "index", "u);"],
  .line [
    "        let cd = clamp(dot(-l, spot_light_direction(", value "index",
    "u)) * cone.x + cone.y, 0.0, 1.0);"],
  .line ["        let attenuation = light_falloff(dist, spot_light_falloff(", value "index", "u)) * cd * cd;"],
  .branch (.atLeast "shadow_index" 0)
    [.line ["        let shadow = shadow_", value "shadow_index", "(surface.position);"]]
    [.line ["        let shadow = 1.0;"]]] ++ plain [
  "        direct += light_contribution(surface, l, light_color.rgb * attenuation) * shadow;",
  "        ibl_shadow = min(ibl_shadow, mix(1.0, shadow, light_color.a));",
  "    \x7d"]

/-- Buffers of `count` point lights, from binding `binding` on. -/
def pointDeclarations : List Item := [
  resource (value "binding") ["var<storage, read> uLPointColors: array<f32, ", times "count" 3, ">;"],
  resource (plus "binding" 1) ["var<storage, read> uLPointPositions: array<f32, ", times "count" 3, ">;"],
  resource (plus "binding" 2) ["var<storage, read> uLPointFalloff: array<f32, ", times "count" 3, ">;"]] ++ plain [
  "",
  "fn point_light_color(i: u32) -> vec3<f32> \x7b",
  "    return vec3<f32>(uLPointColors[i * 3u], uLPointColors[i * 3u + 1u], uLPointColors[i * 3u + 2u]);",
  "\x7d",
  "",
  "fn point_light_position(i: u32) -> vec3<f32> \x7b",
  "    return vec3<f32>(uLPointPositions[i * 3u], uLPointPositions[i * 3u + 1u], uLPointPositions[i * 3u + 2u]);",
  "\x7d",
  "",
  "fn point_light_falloff(i: u32) -> vec3<f32> \x7b",
  "    return vec3<f32>(uLPointFalloff[i * 3u], uLPointFalloff[i * 3u + 1u], uLPointFalloff[i * 3u + 2u]);",
  "\x7d",
  ""]

/-- Contribution of point light `index`, shadowed by slot `shadow_index` if that is not negative. -/
def pointLight : List Item := [
  .line ["    \x7b"],
  .line ["        let to_light = point_light_position(", value "index", "u) - surface.position;"],
  .line ["        let dist = length(to_light);"],
  .line ["        let l = to_light / max(dist, 0.0001);"],
  .line ["        let attenuation = light_falloff(dist, point_light_falloff(", value "index", "u));"],
  .branch (.atLeast "shadow_index" 0)
    [.line ["        let shadow = shadow_", value "shadow_index", "(surface.position);"]]
    [.line ["        let shadow = 1.0;"]],
  .line [
    "        direct += light_contribution(surface, l, point_light_color(", value "index",
    "u) * attenuation) * shadow;"],
  .line ["    \x7d"]]

/-- Buffers, sampler and cube maps of `count` image-based lights, from binding `binding` on. -/
def environmentDeclarations : List Item := [
  resource (value "binding") ["var<storage, read> uLIblSh: array<f32, ", times "count" 27, ">;"],
  resource (plus "binding" 1) ["var<storage, read> uLIblParams: array<f32, ", times "count" 4, ">;"],
  resource (plus "binding" 2) ["var sEnv: sampler;"],
  .repeated "i" "count" [resource (plusEach "binding" 3 "i") ["var tEnv", value "i", ": texture_cube<f32>;"]]] ++ plain [
  "",
  "fn ibl_sh_coefficient(i: u32, c: u32) -> vec3<f32> \x7b",
  "    let base = i * 27u + c * 3u;",
  "    return vec3<f32>(uLIblSh[base], uLIblSh[base + 1u], uLIblSh[base + 2u]);",
  "\x7d",
  "",
  "// Irradiance from nine RGB spherical harmonics coefficients.",
  "fn ibl_irradiance(i: u32, n: vec3<f32>) -> vec3<f32> \x7b",
  "    var r = ibl_sh_coefficient(i, 0u) * 0.282095;",
  "    r += ibl_sh_coefficient(i, 1u) * 0.488603 * n.y;",
  "    r += ibl_sh_coefficient(i, 2u) * 0.488603 * n.z;",
  "    r += ibl_sh_coefficient(i, 3u) * 0.488603 * n.x;",
  "    r += ibl_sh_coefficient(i, 4u) * 1.092548 * n.x * n.y;",
  "    r += ibl_sh_coefficient(i, 5u) * 1.092548 * n.y * n.z;",
  "    r += ibl_sh_coefficient(i, 6u) * 0.315392 * (3.0 * n.z * n.z - 1.0);",
  "    r += ibl_sh_coefficient(i, 7u) * 1.092548 * n.x * n.z;",
  "    r += ibl_sh_coefficient(i, 8u) * 0.546274 * (n.x * n.x - n.y * n.y);",
  "    return max(r, vec3<f32>(0.0));",
  "\x7d",
  "",
  "fn ibl_params(i: u32) -> vec4<f32> \x7b",
  "    return vec4<f32>(uLIblParams[i * 4u], uLIblParams[i * 4u + 1u], uLIblParams[i * 4u + 2u], uLIblParams[i * 4u + 3u]);",
  "\x7d",
  ""]

/-- Contribution of image-based light `index`. -/
def environmentLight : List Item := [
  .line ["    \x7b"],
  .line ["        let params = ibl_params(", value "index", "u);"],
  .line ["        let diffuse = ibl_irradiance(", value "index", "u, surface.normal) * surface.albedo;"],
  .line ["        let r = reflect(-surface.view_dir, surface.normal);"],
  .line [
    "        let specular = textureSampleLevel(tEnv", value "index",
    ", sEnv, r, surface.roughness * params.y).rgb * surface.specular;"]] ++ plain [
  "        let occlusion = select(1.0, mix(1.0, ibl_shadow, params.z), iblShadowing);",
  "        direct += (diffuse + specular) * params.x * occlusion;",
  "    \x7d"]

/-- The sums that lights add to. -/
def lightSums : List Item := plain [
  "    var direct = vec3<f32>(0.0);",
  "    var ibl_shadow = 1.0;"]

/-- Adds the summed light to the color. -/
def lightTotal : List Item := [
  .line ["    color += direct;"]]

end ShaderWeave.Stencil
