import ShaderWeave.Stencil.Parts

/-! # Shadow code

Declarations and lookup functions of the shadow maps.
-/

namespace ShaderWeave.Stencil

/-- Shadow resources and one lookup function for each of `count` slots. The maps are depth textures or encoded
colors, as `depth_texture` says. -/
def shadowDeclarations : List Item := [
  resource (value "binding") ["var<storage, read> uShadowMatrices: array<mat4x4<f32>, ", value "count", ">;"],
  resource (plus "binding" 1) [
    "var<storage, read> uShadowTexelBiasVector: array<vec4<f32>, ", value "count", ">;"],
  resource (plus "binding" 2) ["var<storage, read> uShadowMapSize: array<vec2<f32>, ", value "count", ">;"],
  resource (plus "binding" 3) ["var<uniform> uShadowKernelRotation: vec2<f32>;"],
  .branch (.holds "depth_texture")
    [resource (plus "binding" 4) ["var sShadow: sampler_comparison;"]]
    [resource (plus "binding" 4) ["var sShadow: sampler;"]],
  .repeated "i" "count" [
    .branch (.holds "depth_texture")
      [resource (plusEach "binding" 5 "i") ["var tShadowMap", value "i", ": texture_depth_2d;"]]
      [resource (plusEach "binding" 5 "i") ["var tShadowMap", value "i", ": texture_2d<f32>;"]]]] ++ plain [
  "",
  "fn shadow_coord(slot: u32, world_pos: vec3<f32>) -> vec3<f32> \x7b",
  "    let clip = uShadowMatrices[slot] * vec4<f32>(world_pos, 1.0);",
  "    let ndc = clip.xyz / clip.w;",
  "    let bias = uShadowTexelBiasVector[slot];",
  "    return vec3<f32>(ndc.xy * vec2<f32>(0.5, -0.5) + vec2<f32>(0.5), ndc.z - bias.z * uShadowMapSize[slot].y - bias.w);",
  "\x7d",
  "",
  "fn shadow_kernel(slot: u32) -> array<vec2<f32>, 4> \x7b",
  "    let texel = uShadowMapSize[slot].y;",
  "    let a = uShadowKernelRotation * texel;",
  "    let b = vec2<f32>(-a.y, a.x);",
  "    return array<vec2<f32>, 4>(a, -a, b, -b);",
  "\x7d"] ++ [
  .repeated "i" "count" ([
    .line [""],
    .line ["fn shadow_tap_", value "i", "(uv: vec2<f32>, depth: f32) -> f32 \x7b"],
    .branch (.holds "depth_texture")
      [.line ["    return textureSampleCompareLevel(tShadowMap", value "i", ", sShadow, uv, depth);"]]
      [
        .line ["    let encoded = textureSampleLevel(tShadowMap", value "i", ", sShadow, uv, 0.0).rgb;"],
        .line ["    let stored = dot(encoded, vec3<f32>(1.0, 1.0 / 255.0, 1.0 / 65025.0));"],
        .line ["    return step(depth, stored);"]],
    .line ["\x7d"],
    .line [""],
    .line ["fn shadow_", value "i", "(world_pos: vec3<f32>) -> f32 \x7b"],
    .line ["    let coord = shadow_coord(", value "i", "u, world_pos);"],
    .line ["    if shadowFilter == shadowFilter_PCFNONE \x7b"],
    .line ["        return shadow_tap_", value "i", "(coord.xy, coord.z);"],
    .line ["    \x7d"],
    .line ["    let texel = uShadowMapSize[", value "i", "u].y;"],
    .line ["    if shadowFilter == shadowFilter_PCF2x2 \x7b"],
    .line ["        let h = vec2<f32>(0.5 * texel);"],
    .line ["        return 0.25 * (shadow_tap_", value "i", "(coord.xy + vec2<f32>(-h.x, -h.y), coord.z)"],
    .line ["            + shadow_tap_", value "i", "(coord.xy + vec2<f32>(h.x, -h.y), coord.z)"],
    .line ["            + shadow_tap_", value "i", "(coord.xy + vec2<f32>(-h.x, h.y), coord.z)"],
    .line ["            + shadow_tap_", value "i", "(coord.xy + vec2<f32>(h.x, h.y), coord.z));"],
    .line ["    \x7d"],
    .line ["    var kernel = shadow_kernel(", value "i", "u);"],
    .line ["    var sum = 0.0;"],
    .line ["    for (var k = 0u; k < 4u; k++) \x7b"],
    .line ["        sum += shadow_tap_", value "i", "(coord.xy + kernel[k], coord.z);"]] ++ plain [
    "    \x7d",
    "    if shadowFilter == shadowFilter_PCF4x1 \x7b",
    "        return sum * 0.25;",
    "    \x7d",
    "    for (var k = 0u; k < 4u; k++) \x7b",
    "        for (var r = 2u; r < 5u; r++) \x7b"] ++ [.line ["            sum += shadow_tap_", value "i", "(coord.xy + kernel[k] * f32(r), coord.z);"]] ++ plain [
    "        \x7d",
    "    \x7d",
    "    return sum / 16.0;",
    "\x7d"]),
  .line [""]]

end ShaderWeave.Stencil
