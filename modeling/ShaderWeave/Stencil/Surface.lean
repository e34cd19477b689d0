import ShaderWeave.Stencil.Parts

/-! # The lit surface

Both stages of the standard lit surface and the reflectance model that they share.
-/

namespace ShaderWeave.Stencil

/-- Surface data and the reflectance of one incoming direction. -/
def reflectance : List Item := plain [
  "const PI: f32 = 3.14159265359;",
  "",
  "struct Surface \x7b",
  "    position: vec3<f32>,",
  "    normal: vec3<f32>,",
  "    view_dir: vec3<f32>,",
  "    albedo: vec3<f32>,",
  "    specular: vec3<f32>,",
  "    emissive: vec3<f32>,",
  "    roughness: f32,",
  "\x7d",
  "",
  "fn make_surface(in: FragmentInput) -> Surface \x7b",
  "    var s: Surface;",
  "    s.position = in.world_position;",
  "    s.normal = normalize(in.world_normal);",
  "    s.view_dir = normalize(uCamera.position.xyz - in.world_position);",
  "    let metalness = clamp(uMaterial.metalness, 0.0, 1.0);",
  "    s.albedo = uMaterial.albedo.rgb * (1.0 - metalness);",
  "    s.specular = mix(vec3<f32>(0.04), uMaterial.albedo.rgb, metalness);",
  "    s.emissive = uMaterial.emissive.rgb;",
  "    s.roughness = clamp(uMaterial.roughness, 0.045, 1.0);",
  "    return s;",
  "\x7d",
  "",
  "// GGX specular + Lambert diffuse for one incoming direction.",
  "fn light_contribution(s: Surface, l: vec3<f32>, radiance: vec3<f32>) -> vec3<f32> \x7b",
  "    let h = normalize(l + s.view_dir);",
  "    let n_dot_l = max(dot(s.normal, l), 0.0);",
  "    let n_dot_h = max(dot(s.normal, h), 0.0);",
  "    let a = s.roughness * s.roughness;",
  "    let a2 = a * a;",
  "    let denom = n_dot_h * n_dot_h * (a2 - 1.0) + 1.0;",
  "    let d = a2 / (PI * denom * denom);",
  "    let f = s.specular + (vec3<f32>(1.0) - s.specular) * pow(1.0 - max(dot(h, s.view_dir), 0.0), 5.0);",
  "    return (s.albedo / PI + f * d * 0.25) * radiance * n_dot_l;",
  "\x7d",
  "",
  "// falloff = [range, 1 / range, decay]; a zero range means inverse power only.",
  "fn light_falloff(dist: f32, falloff: vec3<f32>) -> f32 \x7b",
  "    let attenuation = 1.0 / max(pow(dist, falloff.z), 0.0001);",
  "    if falloff.x <= 0.0 \x7b",
  "        return attenuation;",
  "    \x7d",
  "    let window = clamp(1.0 - pow(dist * falloff.y, 4.0), 0.0, 1.0);",
  "    return attenuation * window * window;",
  "\x7d"]

/-- Vertex stage of the lit surface. -/
def surfaceVertex : List Item := plain [
  "struct Camera \x7b",
  "    view_projection: mat4x4<f32>,",
  "    position: vec4<f32>,",
  "\x7d",
  "",
  "@group(1) @binding(0) var<uniform> uCamera: Camera;",
  "@group(1) @binding(1) var<uniform> uModel: mat4x4<f32>;",
  "",
  "struct VertexInput \x7b",
  "    @location(0) position: vec3<f32>,",
  "    @location(1) normal: vec3<f32>,",
  "    @location(2) uv: vec2<f32>,",
  "\x7d",
  "",
  "struct VertexOutput \x7b",
  "    @builtin(position) clip_position: vec4<f32>,",
  "    @location(0) world_position: vec3<f32>,",
  "    @location(1) world_normal: vec3<f32>,",
  "    @location(2) uv: vec2<f32>,",
  "\x7d",
  "",
  "#pragma SLOT definitions",
  "",
  "#pragma SLOT pv",
  "",
  "@vertex",
  "fn vs_main(in: VertexInput) -> VertexOutput \x7b",
  "    var out: VertexOutput;",
  "    let world = uModel * vec4<f32>(in.position, 1.0);",
  "    out.world_position = world.xyz;",
  "    out.world_normal = normalize((uModel * vec4<f32>(in.normal, 0.0)).xyz);",
  "    out.uv = in.uv;",
  "    #pragma SLOT vertex_main",
  "    out.clip_position = uCamera.view_projection * world;",
  "    return out;",
  "\x7d"]

/-- Fragment stage of the lit surface, with places for definitions, declarations and lights. -/
def surfaceFragment : List Item := plain [
  "struct Camera \x7b",
  "    view_projection: mat4x4<f32>,",
  "    position: vec4<f32>,",
  "\x7d",
  "",
  "struct Material \x7b",
  "    albedo: vec4<f32>,",
  "    emissive: vec4<f32>,",
  "    roughness: f32,",
  "    metalness: f32,",
  "\x7d",
  "",
  "@group(1) @binding(0) var<uniform> uCamera: Camera;",
  "@group(1) @binding(2) var<uniform> uMaterial: Material;",
  "",
  "struct FragmentInput \x7b",
  "    @location(0) world_position: vec3<f32>,",
  "    @location(1) world_normal: vec3<f32>,",
  "    @location(2) uv: vec2<f32>,",
  "\x7d",
  ""] ++ [
  .embed "lights/brdf" reflectance] ++ plain [
  "",
  "#pragma SLOT definitions",
  "",
  "#pragma SLOT pf",
  "",
  "@fragment",
  "fn fs_main(in: FragmentInput) -> @location(0) vec4<f32> \x7b",
  "    let surface = make_surface(in);",
  "    var color = surface.emissive;",
  "",
  "    #pragma SLOT lightsf",
  "",
  "    return vec4<f32>(color, uMaterial.albedo.a);",
  "\x7d"]

end ShaderWeave.Stencil
