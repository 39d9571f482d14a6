namespace NullContract.CharName

def cuneiformNames : String :=
    ":12000aCUNEIFORM_SIGN_AdTIMES_AeBADeGAN2_TENUeHAeIGIeLAGAR_GUNUeMUSHeSAGcA2cABdTIMES_ASH2eDUN3_GUNUeGAL
    eGAN2_TENUeHAeIGI_GUNUeIMINeLAGABeSHESHeU_PLUS_U_PLUS_UdGUNUcAB2dTIMES_BALAGeGAN2_TENUeME_PLUS_ENeSHA3eTAK4cAD
    cAKdTIMES_ERIN2eSHITA_PLUS_GISHcALdTIMES_ALeDIM2eGISHeHAeKAD3eKIeSHEeUSHcALANcALEPHcAMARdTIMES_SHEcANdOVER_AN
    dTHREE_TIMESdPLUS_NAGA_OPPOSING_AN_PLUS_NAGAfSQUAREDcANSHEcAPINcARADdTIMES_KURcARKABcASAL2cASHdZIDA_TENU
    dKABA_TENUdOVER_ASH_TUG2_OVER_TUG2_TUG2_OVER_TUG2_PAPfOVER_ASHhCROSSING_ASH_OVER_ASH_OVER_ASHcASH2cASHGABcBAcBAD
    cBAG3cBAHAR2cBALdOVER_BALcBALAGcBARcBARA2cBIdTIMES_AeGAReIGI_GUNUcBUdOVER_BU_ABfUNdCROSSING_BUcBULUGdOVER_BULUG
    cBURcBUR2cDAcDAGdKISIM5_TIMES_A_PLUS_MASHfAMARfBALAGfBIfGAgPLUS_MASHfGIfGIR2fGUDfHAfIRgPLUS_LUfKAKfLAfLU
    gPLUS_MASH2fLUMfNEfPAP_PLUS_PAPfSIfTAK4fU2_PLUS_GIR2fUSHcDAMcDARcDARA3cDARA4cDIcDIBcDIMdTIMES_SHEcDIM2cDIN
    dKASKAL_U_GUNU_DISHcDISHcDUdOVER_DUdGUNUdSHESHIGcDUBdTIMES_ESH2cDUB2cDUGcDUGUDcDUHcDUNcDUN3dGUNUeGUNUcDUN4cDUR2
    cEdTIMES_PAPdOVER_E_NUN_OVER_NUNcE2dTIMES_A_PLUS_HA_PLUS_DAeGAReMIeSALeSHEeUcEDINcEGIRcELcENdTIMES_GAN2fTENUeME
    dCROSSING_ENdOPPOSING_ENdSQUAREDcERENcERIN2cESH2cEZENdTIMES_AfPLUS_LALhTIMES_LALeANeBADeDUN3_GUNUgGUNUeHAfGUNU
    eIGI_GUNUeKASKALfSQUAREDeKU3eLAeLAL_TIMES_LALeLIeLUeU2eUDcGAdGUNUcGA2dTIMES_A_PLUS_DA_PLUS_HAgHAgIGI
    eAB2_TENU_PLUS_TABeANeASHeASH2_PLUS_GALeBADeBAR_PLUS_RAeBURfPLUS_RAeDAeDIeDIM_TIMES_SHEeDUBeELfPLUS_LAeEN
    fTIMES_GAN2_TENUeGAN2_TENUeGAReGIeGI4fPLUS_AeGIR2_PLUS_SUeHA_PLUS_LU_PLUS_ESH2eHALfPLUS_LAeHI_PLUS_LIeHUB2
    eIGI_GUNUeISH_PLUS_HU_PLUS_ASHeKAKeKASKALeKIDfPLUS_LALeKU3_PLUS_ANeLAeME_PLUS_ENeMIeNUNfOVER_NUNePAeSALeSAReSHE
    fPLUS_TUReSHIDeSUMeTAK4eUeUDfPLUS_DUdOVER_GA2cGABAdCROSSING_GABAcGADdOVER_GAD_GAR_OVER_GARcGAL
    dGAD_OVER_GAD_GAR_OVER_GARcGALAMcGAMcGANcGAN2dTENUdOVER_GAN2dCROSSING_GAN2cGARcGAR3cGASHANcGESHTINdTIMES_KURcGI
    dTIMES_EeUdCROSSING_GIcGI4dOVER_GI4dCROSSING_GI4cGIDIMcGIR2dGUNUcGIR3dTIMES_A_PLUS_IGIeGAN2_TENUeIGIeLU_PLUS_IGI
    ePAcGISALcGISHdCROSSING_GISHdTIMES_BADeTAK4dTENUcGUdCROSSING_GUcGU2dTIMES_KAKfTIMES_IGI_GUNUeNUNeSAL_PLUS_TUG2
    dGUNUcGUDdTIMES_A_PLUS_KUReKURdOVER_GUD_LUGALcGULcGUMdTIMES_SHEcGURcGUR7cGURUNcGURUSHcHAdTENUdGUNUcHALcHI
    dTIMES_ASHeASH2eBADeDISHeGADeKINeNUNeSHEeUcHUcHUB2dTIMES_ANeHALeKASKALeLISHeUDcHUL2cIdAcIBcIDIMdOVER_IDIM_BUR
    fSQUAREDcIGcIGIdDIBdRIdOVER_IGI_SHIR_OVER_SHIR_UD_OVER_UDdGUNUcILdTIMES_GAN2_TENUcIL2cIMdTIMES_TAK4dCROSSING_IM
    dOPPOSING_IMdSQUAREDcIMINcINcIRcISHcKAdTIMES_AeADfPLUS_KU3eASH2eBADeBALAGeBAReBIeERIN2eESH2eGAeGALeGAN2_TENUeGAR
    fPLUS_SHA3_PLUS_AeGIeGIR2eGISH_PLUS_SARfCROSSING_GISHeGUeGUR7eIGIeIMeKAKeKIeKIDeLIeLUeMEfPLUS_DUgGIgTEeMI
    fPLUS_NUNUZeNEeNUNePIeRUeSAeSAReSHAeSHEeSHIDeSHUeSIGeSUHUReTAReUeU2eUDeUMUM_TIMES_PAeUSHeZIcKA2dCROSSING_KA2cKAB
    cKAD2cKAD3cKAD4cKAD5dOVER_KAD5cKAKdTIMES_IGI_GUNUcKALdTIMES_BADdCROSSING_KALcKAM2cKAM4cKASKAL
    dLAGAB_TIMES_U_OVER_LAGAB_TIMES_UdOVER_KASKAL_LAGAB_TIMES_U_OVER_LAGAB_TIMES_UcKESH2cKIdTIMES_BADeUeUDcKIDcKIN
    cKISALcKISHcKISIM5dOVER_KISIM5cKUdOVER_HI_TIMES_ASH2_KU_OVER_HI_TIMES_ASH2cKU3cKU4dVARIANT_FORMcKU7cKULdGUNUcKUN
    cKURdOPPOSING_KURcKUSHU2cKWU318cLAcLAGABdTIMES_AfPLUS_DA_PLUS_HAgGARgLALeALeANeASH_ZIDA_TENUeBADeBIeDAReENeGA
    eGAReGUDfPLUS_GUDeHAeHALeHI_TIMES_NUNeIGI_GUNUeIMfPLUS_HAgLUeKIeKINeKU3eKULfPLUS_HI_PLUS_AeLAGABeLISHeLUeLULeME
    fPLUS_ENeMUSHeNEeSHE_PLUS_SUMeSHITA_PLUS_GISH_PLUS_ERIN2hTENUeSHU2fPLUS_SHU2eSUMeTAGeTAK4
    eTE_PLUS_A_PLUS_SU_PLUS_NAeUfPLUS_AgU_PLUS_UeU2_PLUS_ASHeUDeUSHdSQUAREDcLAGARdTIMES_SHEfPLUS_SUMdGUNU
    eOVER_LAGAR_GUNU_SHEcLAHSHUcLALdTIMES_LALcLAMdTIMES_KURfPLUS_RUcLIcLILcLIMMU2cLISHcLUdTIMES_BADcLU2dTIMES_ALeBAD
    eESH2fTENUeGAN2_TENUeHI_TIMES_BADeIMeKAD2eKAD3fPLUS_ASHeKIeLA_PLUS_ASHeLAGABeME_PLUS_ENeNEeNUeSI_PLUS_ASH
    eSIK2_PLUS_BUeTUG2dTENUdCROSSING_LU2dOPPOSING_LU2dSQUAREDdSHESHIGcLU3cLUGALdOVER_LUGALdOPPOSING_LUGALdSHESHIG
    cLUHcLULcLUMdOVER_LUMfGAR_OVER_GARcMAdTIMES_TAK4dGUNUcMA2cMAHcMARcMASHcMASH2cMEcMEScMIcMINcMUdOVER_MUcMUGdGUNU
    cMUNSUBcMURGU2cMUSHdTIMES_AeKUReZAdOVER_MUSHfTIMES_A_PLUS_NAdCROSSING_MUSHcMUSH3dTIMES_AfPLUS_DIeDIdGUNUcNAcNA2
    cNAGAdINVERTEDdTIMES_SHU_TENUdOPPOSING_NAGAcNAGARcNAM_NUTILLUcNAMcNAM2cNEdTIMES_AeUDdSHESHIGcNIdTIMES_EcNI2cNIM
    dTIMES_GAN2_TENUeGAR_PLUS_GAN2_TENUcNINDA2dTIMES_ANeASHfPLUS_ASHeGUDeME_PLUS_GAN2_TENUeNEeNUNeSHEfPLUS_A_ANgASH
    hPLUS_ASHeU2_PLUS_ASHeUSHcNISAGcNUcNU11cNUNdLAGAR_TIMES_GARfMASHfSALgOVER_NUN_LAGAR_TIMES_SALfUSHdTENUdOVER_NUN
    dCROSSING_NUNfLAGAR_OVER_LAGARcNUNUZdAB2_TIMES_ASHGABfBIfDUGfGUDfIGI_GUNUfKAD3fLAfNEfSILA3fU2dKISIM5_TIMES_BIgU
    cPAcPADcPANcPAPcPESH2cPIdTIMES_AeABeBIeBUeEeIeIBeUeU2dCROSSING_PIcPIRIGdTIMES_KALeUDeZAdOPPOSING_PIRIGcRAcRABcRI
    cRUcSAcSAG_NUTILLUcSAGdTIMES_AeDUeDUBeHAeKAKeKUReLUMeMIeNUNeSALeSHIDeTABeU2eUBeUMeUReUSHdOVER_SAGdGUNUcSAL
    dLAGAB_TIMES_ASH2cSANGA2cSARcSHAcSHA3dTIMES_AeBADeGISHeNEeSHU2eTUReUfPLUS_AcSHA6cSHAB6cSHAR2cSHEdHU
    dOVER_SHE_GAD_OVER_GAD_GAR_OVER_GARfTAB_OVER_TAB_GAR_OVER_GARcSHEG9cSHENcSHESHcSHESH2cSHESHLAMcSHIDdTIMES_AeIM
    cSHIMdTIMES_AeBALeBULUGeDINeGAReIGIfGUNUeKUSHU2eLULeMUGeSALcSHINIGcSHIRdTENUdOVER_SHIR_BUR_OVER_BURcSHITAcSHU
    dOVER_INVERTED_SHUcSHU2cSHUBURcSIdGUNUcSIGcSIG4dOVER_SIG4_SHU2cSIK2cSILA3cSUdOVER_SUcSUDcSUD2cSUHURcSUMcSUMASH
    cSURcSUR9cTAdASTERISKdTIMES_HIeMIdGUNUcTABdOVER_TAB_NI_OVER_NI_DISH_OVER_DISHdSQUAREDcTAGdTIMES_BIeGUDeSHEeSHU
    eTUG2eUDcTAK4cTARcTEdGUNUcTIdTENUcTILcTIRdTIMES_TAK4dOVER_TIRfGAD_OVER_GAD_GAR_OVER_GARcTUcTUG2cTUKcTUMcTUR
    dOVER_TUR_ZA_OVER_ZAcUdGUDdU_UdOVER_U_PA_OVER_PA_GAR_OVER_GARfSUR_OVER_SURfU_REVERSED_OVER_U_REVERSEDcU2cUBcUD
    dKUSHU2dTIMES_BADeMIeU_PLUS_U_PLUS_UjGUNUdGUNUdSHESHIGeTIMES_BADcUDUGcUMdTIMES_LAGABeME_PLUS_DAeSHA3eUcUMBIN
    cUMUMdTIMES_KASKALePAcUNdGUNUcURdCROSSING_URdSHESHIGcUR2dTIMES_A_PLUS_HAgNAeALeHAeNUNeU2fPLUS_ASHgBIcUR4cURI
    cURI3cURUdTIMES_AeASHGABeBAReDUNeGAeGALeGAN2_TENUeGAReGUeHAeIGIeIMeISHeKIeLUMeMINePAeSHEeSIG4eTUeU_PLUS_GUDeUD
    eURUDAcURUDAdTIMES_UcUSHdTIMES_AeKUeKUReTAK4cUSHXcUSH2cUSHUMXcUTUKIcUZ3dTIMES_KASKALcUZUcZAdTENU
    dSQUARED_TIMES_KURcZAGcZAMXcZE2cZIdOVER_ZIcZI3cZIBdKABA_TENUcZIGcZIZ2cZUcZU5dTIMES_AcZUBURcZUMcKAP_ELAMITE
    cAB_TIMES_NUNcAB2_TIMES_AcAMAR_TIMES_KUGcDAG_KISIM5_TIMES_U2_PLUS_MASHcDAG3cDISH_PLUS_SHUcDUB_TIMES_SHE
    cEZEN_TIMES_GUDeSHEcGA2_TIMES_AN_PLUS_KAK_PLUS_AeASH2cGE22cGIGcHUSHcKA_TIMES_ANSHEeASH3eGISHeGUDeHI_TIMES_ASH2
    eLUMePAeSHULeTUeUR2cLAGAB_TIMES_GIcLU2_SHESHIG_TIMES_BADdTIMES_ESH2_PLUS_LALeSHUcMESHcMUSH3_TIMES_ZAcNA4cNIN
    cNIN9cNINDA2_TIMES_BALeGIcNU11_ROTATED_NINETY_DEGREEScPESH2_ASTERISKcPIR2cSAG_TIMES_IGI_GUNUcTI2cUM_TIMES_MEcU_U
    :12400bNUMERIC_SIGN_TWO_ASHdTHREE_ASHdFOUR_ASHdFIVE_ASHdSIX_ASHdSEVEN_ASHdEIGHT_ASHdNINE_ASHdTHREE_DISH
    dFOUR_DISHdFIVE_DISHdSIX_DISHdSEVEN_DISHdEIGHT_DISHdNINE_DISHdFOUR_UdFIVE_UdSIX_UdSEVEN_UdEIGHT_UdNINE_U
    dONE_GESH2dTWO_GESH2dTHREE_GESH2dFOUR_GESH2dFIVE_GESH2dSIX_GESH2dSEVEN_GESH2dEIGHT_GESH2dNINE_GESH2dONE_GESHU
    dTWO_GESHUdTHREE_GESHUdFOUR_GESHUdFIVE_GESHUdTWO_SHAR2dTHREE_SHAR2fVARIANT_FORMdFOUR_SHAR2dFIVE_SHAR2dSIX_SHAR2
    dSEVEN_SHAR2dEIGHT_SHAR2dNINE_SHAR2dONE_SHARUdTWO_SHARUdTHREE_SHARUfVARIANT_FORMdFOUR_SHARUdFIVE_SHARU
    dSHAR2_TIMES_GAL_PLUS_DISHhMINdONE_BURUdTWO_BURUdTHREE_BURUfVARIANT_FORMdFOUR_BURUdFIVE_BURU
    dTHREE_VARIANT_FORM_ESH16gESH21dFOUR_VARIANT_FORM_LIMMUgLIMMU4gLIMMU_AhBdSIX_VARIANT_FORM_ASH9
    dSEVEN_VARIANT_FORM_IMIN3gIMIN_AhBdEIGHT_VARIANT_FORM_USSUgUSSU3dNINE_VARIANT_FORM_ILIMMUgILIMMU3gILIMMU4
    gILIMMU_AdTWO_ASH_TENUdTHREE_ASH_TENUdFOUR_ASH_TENUdFIVE_ASH_TENUdSIX_ASH_TENUdONE_BAN2dTWO_BAN2dTHREE_BAN2
    dFOUR_BAN2fVARIANT_FORMdFIVE_BAN2fVARIANT_FORMdNIGIDAMINdNIGIDAESHdONE_ESHE3dTWO_ESHE3dONE_THIRD_DISH
    dTWO_THIRDS_DISHdFIVE_SIXTHS_DISHdONE_THIRD_VARIANT_FORM_AdTWO_THIRDS_VARIANT_FORM_AdONE_EIGHTH_ASHeQUARTER_ASH
    dOLD_ASSYRIAN_ONE_SIXTHgQUARTERdONE_QUARTER_GUReHALF_GURdELAMITE_ONE_THIRDeTWO_THIRDSeFORTYeFIFTY
    dFOUR_U_VARIANT_FORMdFIVE_U_VARIANT_FORMdSIX_U_VARIANT_FORMdSEVEN_U_VARIANT_FORMdEIGHT_U_VARIANT_FORM
    dNINE_U_VARIANT_FORM:12470bPUNCTUATION_SIGN_OLD_ASSYRIAN_WORD_DIVIDERdVERTICAL_COLONdDIAGONAL_COLONeTRICOLON
    eQUADCOLON:12480bSIGN_AB_TIMES_NUN_TENUeSHU2cAD_TIMES_ESH2cBAD_TIMES_DISH_TENUcBAHAR2_TIMES_AB2eNIeZA
    cBU_OVER_BU_TIMES_NA2cDA_TIMES_TAK4cDAG_TIMES_KURcDIM_TIMES_IGIeU_U_UcDIM2_TIMES_UDcDUG_TIMES_ANSHEeASHfAT_LEFT
    eDINeDUNeERIN2eGAeGIeGIR2_GUNUeGISHeHAeHIeIGI_GUNUeKASKALeKUReKUSHU2fPLUS_KASKALeLAK-020eLAMfTIMES_KUR
    eLUH_PLUS_GISHeMASHeMESeMIeNIePIeSHEeSI_GUNUcE2_TIMES_KURePAPcERIN2_XcESH2_CROSSING_ESH2cEZEN_SHESHIG_TIMES_ASH
    fHIfIGI_GUNUfLAfLALfMEfMESfSUdTIMES_SUcGA2_TIMES_BAHAR2eDIM_GUNUeDUG_TIMES_IGI_GUNUgKASKALeERENeGAeGAR_PLUS_DI
    gNEeHA_PLUS_AeKUSHU2_PLUS_KASKALeLAMfTIMES_KUReLUHeMUSHeNEfPLUS_E2gGIeSHIMeZIZ2cGABA_ROTATED_NINETY_DEGREES
    cGESHTIN_TIMES_UcGISH_TIMES_GISH_CROSSING_GISHcGU2_TIMES_IGI_GUNUcGUD_PLUS_GISH_TIMES_TAK4cHA_TENU_GUNU
    cHI_TIMES_ASH_OVER_HI_TIMES_ASHcKA_TIMES_BUeKAeU_U_UeURcLAGAB_TIMES_ZU_OVER_ZUcLAK-003cLAK-021cLAK-025cLAK-030
    cLAK-050cLAK-051cLAK-062cLAK-079_OVER_LAK-079_GUNUcLAK-080cLAK-081_OVER_LAK-081cLAK-092cLAK-130cLAK-142cLAK-210
    cLAK-219cLAK-220cLAK-225cLAK-228cLAK-238cLAK-265cLAK-266cLAK-343cLAK-347cLAK-348cLAK-383cLAK-384cLAK-390cLAK-441
    cLAK-449dTIMES_GUeIGIePAP_PLUS_LU3gPAP_PLUS_LU3eU2_PLUS_BAcLAK-450cLAK-457cLAK-470cLAK-483cLAK-490cLAK-492
    cLAK-493cLAK-495cLAK-550cLAK-608cLAK-617dTIMES_ASHeBADeDUN3_GUNU_GUNUeKU3eLAeTAReTEeU2eUDeURUDAcLAK-636cLAK-648
    dTIMES_DUBeGAeIGIfGUNUeNIePAP_PLUS_PAP_PLUS_LU3eSHESH_PLUS_KIeUDeURUDAcLAK-724cLAK-749cLU2_GUNU_TIMES_ASH
    dTIMES_DISHeHALePAPfPLUS_PAP_PLUS_LU3eTAK4cMI_PLUS_ZA7cMUSH_OVER_MUSH_TIMES_GAgKAKcNINDA2_TIMES_DIM_GUNUeGISH
    eGULeHIeKESH2eLAK-050eMASHePAP_PLUS_PAPeUfPLUS_UeURUDAcSAG_GUNU_TIMES_HAdTIMES_ENeSHE_AT_LEFTeTAK4cSHA6_TENU
    cSHE_OVER_SHEdPLUS_HUB2eNAM2eSARcSHU2_PLUS_DUG_TIMES_NIeE2_TIMES_ANcSI_TIMES_TAK4cTAK4_PLUS_SAG
    cTUM_TIMES_GAN2_TENUeTHREE_DISHcUR2_INVERTEDdTIMES_UDcURU_TIMES_DARA3eLAK-668eLU3cZA7cZU_OVER_ZU_PLUS_SAR
    cZU5_TIMES_THREE_DISH_TENU:12F90aCYPRO-MINOAN_SIGN_CM001cCM002cCM004cCM005cCM006cCM007cCM008cCM009cCM010cCM011
    cCM012cCM012BcCM013cCM015cCM017cCM019cCM021cCM023cCM024cCM025cCM026cCM027cCM028cCM029cCM030cCM033cCM034cCM035
    cCM036cCM037cCM038cCM039cCM040cCM041cCM044cCM046cCM047cCM049cCM050cCM051cCM052cCM053cCM054cCM055cCM056cCM058
    cCM059cCM060cCM061cCM062cCM063cCM064cCM066cCM067cCM068cCM069cCM070cCM071cCM072cCM073cCM074cCM075cCM075BcCM076
    cCM078cCM079cCM080cCM081cCM082cCM083cCM084cCM085cCM086cCM087cCM088cCM089cCM090cCM091cCM092cCM094cCM095cCM096
    cCM097cCM098cCM099cCM100cCM101cCM102cCM103cCM104cCM105cCM107cCM108cCM109cCM110cCM112cCM114cCM301cCM302"

end NullContract.CharName
